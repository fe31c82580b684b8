import LuaShell.Script.EngineError
import LuaShell.Console.Palette
import LuaShell.Text.Digit

/-!
# Diagnostics

A failure of the engine in the form in which it is shown: the message, the place it
points to, and the line of the source with its text underlined.  The place is read
off the beginning of the message, `origin:line: `, or else off the first frame of
the call stack that names one.
-/

namespace LuaShell

/-- Whether compiling or running failed. -/
inductive FailureKind where
  | compile
  | runtime
  deriving DecidableEq

/-- The name in log records. -/
def FailureKind.label : FailureKind → String
  | .compile => "Compile"
  | .runtime => "Runtime"

/-- A failure as it is shown. -/
structure Diagnostic where
  kind : FailureKind
  message : String
  /-- The chunk that the failure points into. -/
  origin : Option String
  /-- The line, counted from one. -/
  line : Option Nat
  sourceLine : Option String
  /-- Where the underlining starts and ends, counted in characters. -/
  span : Option (Nat × Nat)
  stackTrace : Option String
  deriving DecidableEq

namespace Diagnostic

/-! ## Places in messages and call stacks -/

/-- At a colon: the digits after it and what follows them and the mark. -/
def numberAt? (mark : List Char) : List Char → Option (List Char × List Char)
  | ':' :: cs =>
      let digits := cs.takeWhile Text.isDigit
      let rest := cs.dropWhile Text.isDigit
      if digits.isEmpty then none
      else if mark.isPrefixOf rest then some (digits, rest.drop mark.length)
      else none
  | _ => none

/-- The first colon of a line that digits and a mark follow: what stands before it, the
digits, and what stands after the mark. -/
def located? (mark : List Char) : List Char → Option (List Char × List Char × List Char)
  | [] => none
  | c :: cs =>
      match numberAt? mark (c :: cs) with
      | some (digits, rest) => some ([], digits, rest)
      | none =>
          if c = '\n' then none
          else (located? mark cs).map fun (before, found) => (c :: before, found)

/-- The line that digits write, if it has sixty-four bits. -/
def lineNumber? (digits : List Char) : Option Nat :=
  (Text.natOfDigits? digits).filter (· < UInt64.size)

/-- The place that a message begins with, and the message without it. -/
def ofMessage? (message : String) : Option (String × Nat × String) :=
  match located? [':', ' '] message.toList with
  | none => none
  | some (origin, digits, rest) =>
      (lineNumber? digits).map fun n => (String.ofList origin, n, String.ofList rest)

/-- A text cut at every line feed. -/
def linesOf : List Char → List (List Char)
  | [] => [[]]
  | c :: cs =>
      if c = '\n' then [] :: linesOf cs
      else match linesOf cs with
        | [] => [[c]]
        | l :: ls => (c :: l) :: ls

/-- The place that a frame of a call stack names. Frames of native code name none. -/
def frame? (line : List Char) : Option (List Char × List Char) :=
  match Text.trimStart line with
  | [] => none
  | c :: cs =>
      if c = '[' then none
      else (located? [':', ' ', 'i', 'n', ' '] cs).map fun (origin, digits, _) =>
        (c :: origin, digits)

/-- The first place that a call stack names. -/
def ofTrace? (trace : String) : Option (String × Nat) :=
  match (linesOf trace.toList).findSome? frame? with
  | none => none
  | some (origin, digits) => (lineNumber? digits).map fun n => (String.ofList origin, n)

/-! ## Messages and call stacks -/

/-- A text cut before the heading of a call stack. -/
def splitTrace (message : String) : String × Option String :=
  match EngineError.splitAt? EngineError.marker.toList message.toList with
  | some (before, trace) =>
      (String.ofList (Text.trimEnd before), some (String.ofList trace))
  | none => (message, none)

/-- The message of a failure without any wrappings, and the call stack. -/
def flatten : EngineError → String × Option String
  | .compile message _ => (message, none)
  | .runtime message => splitTrace message
  | .callback traceback cause => ((flatten cause).1, some traceback)
  | .external message => (message, none)
  | .command cause => (cause.message, none)
  | e => splitTrace e.message

/-! ## Source lines -/

/-- The lines of a source: a line feed ends a line and takes a return before it along. -/
def sourceLines (source : String) : List (List Char) :=
  let ls := linesOf source.toList
  let ls := if ls.getLast? = some [] then ls.dropLast else ls
  ls.map fun l => (l.reverse.dropWhile (· = '\r')).reverse

/-- The line of a number; line zero is the first one as well. -/
def sourceLine? (source : String) (line : Nat) : Option String :=
  ((sourceLines source)[line - 1]?).map String.ofList

/-- Where the text of a line starts and ends; none for a blank line. -/
def span? (line : String) : Option (Nat × Nat) :=
  let start := (line.toList.takeWhile Text.isBlank).length
  let stop := (Text.trimEnd line.toList).length
  if start < stop then some (start, stop) else none

/-! ## Building and showing -/

/-- The diagnostic of a failure while compiling or running `source`, whose chunk has the
name `origin`. -/
def ofError (kind : FailureKind) (error : EngineError) (origin source : String) : Diagnostic :=
  let (raw, trace) := flatten error
  let (message, place) := match ofMessage? raw with
    | some (o, n, rest) => (rest, some (o, n))
    | none => (raw, trace.bind ofTrace?)
  match place with
  | none => ⟨kind, message, none, none, none, none, trace⟩
  | some (o, n) =>
      let line := if o = origin then sourceLine? source n else none
      ⟨kind, message, some o, some n, line, line.bind span?, trace⟩

/-- The diagnostic in one line, if the message is. -/
def display (d : Diagnostic) : String :=
  match d.origin, d.line with
  | some origin, some line => s!"{origin}:{line} - {d.message}"
  | _, _ => d.message

/-- The marks under a line. -/
def underline (span : Nat × Nat) : String :=
  String.ofList (List.replicate span.1 ' ' ++ List.replicate (span.2 - span.1) '^')

/-- The report, line by line. -/
def render (d : Diagnostic) (palette : Palette) : List String :=
  let source := match d.sourceLine with
    | none => []
    | some text => text :: (d.span.map underline).toList
  s!"{palette.errorTag} {d.display}" :: source ++ d.stackTrace.toList

/-- The report as it is written to the error stream. -/
def report (d : Diagnostic) (palette : Palette) : String :=
  String.join ((d.render palette).map (· ++ "\n"))

end Diagnostic

end LuaShell
