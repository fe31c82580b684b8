import LuaShell.Regex.Meaning
import LuaShell.Text.Blank

/-!
# Log records

Records have a level and a target, the part of the program they come from.  A
filter is a list of directives, each a beginning of targets and the least weighty
level that is still written; the directive with the longest beginning decides.
-/

namespace LuaShell.Log

/-- How weighty a record is. -/
inductive Level where
  | error
  | warn
  | info
  | debug
  | trace
  deriving DecidableEq

namespace Level

/-- The weightiest is first. -/
def rank : Level → Nat
  | .error => 1
  | .warn => 2
  | .info => 3
  | .debug => 4
  | .trace => 5

/-- The name, padded to five characters. -/
def label : Level → String
  | .error => "ERROR"
  | .warn => "WARN "
  | .info => "INFO "
  | .debug => "DEBUG"
  | .trace => "TRACE"

end Level

/-- How many levels are written: none with zero, all with five. -/
abbrev Limit := Nat

/-- The limit of a name, in any case. -/
def limit? (name : String) : Option Limit :=
  match name.toUpper with
  | "OFF" => some 0
  | "ERROR" => some 1
  | "WARN" => some 2
  | "INFO" => some 3
  | "DEBUG" => some 4
  | "TRACE" => some 5
  | _ => none

/-- The limit for the targets that begin with a text. -/
structure Directive where
  beginning : Option String
  limit : Limit

/-- Directives, and a pattern that every record has to match. -/
structure Filter where
  directives : List Directive
  pattern : Option Regex.Matcher

namespace Filter

/-- Nothing is written. -/
def off : Filter := ⟨[], none⟩

/-- A directive takes the place of an earlier one for the same targets. -/
def add (ds : List Directive) (d : Directive) : List Directive :=
  if ds.any (·.beginning = d.beginning) then
    ds.map fun e => if e.beginning = d.beginning then d else e
  else ds ++ [d]

/-- Read one directive: a level, a target, or a target and its level. -/
def readDirective (text : String) : Except String Directive :=
  match text.splitOn "=" with
  | [one] => match limit? one with
    | some n => .ok ⟨none, n⟩
    | none => .ok ⟨some one, 5⟩
  | [target, level] =>
      let level := String.ofList (Text.trim level.toList)
      if level.isEmpty then .ok ⟨some target, 5⟩
      else match limit? level with
        | some n => .ok ⟨some target, n⟩
        | none => .error s!"invalid logging spec '{level}'"
  | _ => .error s!"invalid logging spec '{text}'"

/-- Read directives, apart by commas; what is wrong with some of them is said beside. -/
def readDirectives (texts : List String) : List Directive × List String :=
  texts.foldl (fun (ds, faults) text =>
    let text := String.ofList (Text.trim text.toList)
    if text.isEmpty then (ds, faults)
    else match readDirective text with
      | .ok d => (add ds d, faults)
      | .error fault => (ds, faults ++ [fault])) ([], [])

/-- Without any directive errors are written. -/
def orErrors (ds : List Directive) : List Directive :=
  if ds.isEmpty then [⟨none, 1⟩] else ds

/-- Read a filter, and say what is wrong with its text. -/
def parse (text : String) : Filter × List String :=
  match text.splitOn "/" with
  | [mods] =>
      let (ds, faults) := readDirectives (mods.splitOn ",")
      (⟨orErrors ds, none⟩, faults)
  | [mods, pattern] =>
      let (ds, faults) := readDirectives (mods.splitOn ",")
      match Regex.Matcher.ofString pattern with
      | .ok m => (⟨orErrors ds, some m⟩, faults)
      | .error e =>
          let report := e.report pattern
          (⟨orErrors ds, none⟩, faults ++ [s!"invalid regex filter - {report}"])
  | _ => (⟨orErrors [], none⟩, [s!"invalid logging spec '{text}' (too many '/'s)"])

/-- The directive that decides about a target. -/
def deciding? (f : Filter) (target : String) : Option Directive :=
  let length (d : Directive) : Nat := (d.beginning.map (·.utf8ByteSize)).getD 0
  let fitting := f.directives.filter fun d => d.beginning.all fun b => target.startsWith b
  fitting.foldl (fun best d => match best with
    | none => some d
    | some b => if length b ≤ length d then some d else some b) none

/-- Whether a record is written. -/
def admits (f : Filter) (level : Level) (target message : String) : Bool :=
  ((f.deciding? target).any fun d => level.rank ≤ d.limit) &&
    f.pattern.all (·.isIn message)

end Filter

/-- A record as it is written. -/
def line (level : Level) (target message : String) : String :=
  s!"[{level.label} {target}] {message}\n"

end LuaShell.Log
