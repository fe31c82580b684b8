import LuaShell.Script.Engine

/-!
# Script units

A unit is one source that is compiled and run as a whole: a file, a text given on
the command line, or what was typed at the prompt.  At the prompt a source is first
read as an expression, and what it yields is printed.
-/

namespace LuaShell

open Lua (Value)

/-- What is written about a unit. -/
structure UnitOptions where
  /-- Print the values, and try the source as an expression first. -/
  printResult : Bool
  /-- Report a failure. -/
  reportFailure : Bool
  deriving DecidableEq

namespace UnitOptions

def batch : UnitOptions := ⟨false, true⟩

def interactive : UnitOptions := ⟨true, true⟩

def quiet : UnitOptions := ⟨false, false⟩

end UnitOptions

/-- Why a unit did not come to its end. -/
inductive ScriptError where
  | failed (d : Diagnostic)
  /-- The script asked to leave the shell. -/
  | exit (code : Int)

namespace ScriptError

/-- The wording of an error. -/
def message : ScriptError → String
  | .failed d => d.display
  | .exit code => s!"exit requested with code {code}"

end ScriptError

/-- The chunk name of what was typed at the prompt. -/
def interactiveOrigin : String := "(shell)"

/-- The chunk name of a source from the command line. -/
def inlineOrigin : String := "unnamed"

/-- Values that say nothing. -/
def allNil (values : List Value) : Bool :=
  values.all (·.isNil)

namespace Engine

variable {ε χ : Type} (E : Engine ε χ)

/-- A source as an expression. -/
def asExpression (source : String) : String :=
  "return " ++ source

/-- Compile a source, as an expression if that is wanted and possible. -/
def compileUnit (source origin : String) (expressionFirst : Bool) : Except EngineError χ :=
  if expressionFirst then
    match E.compile (asExpression source) ("=" ++ origin) with
    | .ok chunk => .ok chunk
    | .error _ => E.compile source ("=" ++ origin)
  else E.compile source ("=" ++ origin)

/-- Whether a failure says that more text could make the source a chunk. -/
def isIncomplete : Except EngineError χ → Bool
  | .error (.compile _ incomplete) => incomplete
  | _ => false

/-- Whether a source is the beginning of a chunk and not a chunk itself. -/
def needsMoreInput (source : String) : Bool :=
  match E.compile (asExpression source) "=?" with
  | .ok _ => false
  | .error _ => isIncomplete (E.compile source "=?")

/-- Note a failure, and report it if that is wanted. -/
def fail (kind : FailureKind) (error : EngineError) (source origin : String)
    (options : UnitOptions) (m : Machine ε) : Except ScriptError (List Value) × Machine ε :=
  let d := Diagnostic.ofError kind error origin source
  let m := m.mapHost fun h =>
    let h := h.record .debug "luash::script" s!"{kind.label} failure in {origin}: {d.display}"
    if options.reportFailure then h.complain (d.report h.palette) else h
  (.error (.failed d), m)

/-- Print the values of a unit, unless they say nothing. -/
def printResult (options : UnitOptions) (values : List Value) (m : Machine ε) : Machine ε :=
  if options.printResult && !allNil values then
    let (text, m) := E.displayValues "\t" values m
    m.mapHost (·.printLine text)
  else m

/-- Compile and run a unit. -/
def execute (source origin : String) (options : UnitOptions) (m : Machine ε) :
    Except ScriptError (List Value) × Machine ε :=
  let m := m.mapHost fun h =>
    h.record .trace "luash::script" s!"executing {origin} ({source.utf8ByteSize} bytes)"
  match E.compileUnit source origin options.printResult with
  | .error e => fail .compile e source origin options m
  | .ok chunk => match E.run chunk m with
    | (.ok values, m) => (.ok values, E.printResult options values m)
    | (.error e, m) => match e.exitRequest? with
      | some code => (.error (.exit code), m)
      | none => fail .runtime e source origin options m

end Engine

end LuaShell
