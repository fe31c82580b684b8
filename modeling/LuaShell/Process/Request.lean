import LuaShell.Path.WorkingDirectory
import LuaShell.FileSystem.Lookup

/-!
# Requests to run a program

A program and its arguments, how named parameters are spelled as arguments, and
what can be said of a program that has ended.
-/

namespace LuaShell

/-- Why a program could not be run. -/
inductive ProcessError where
  /-- The system did not start it. -/
  | launch (text : String)
  /-- A text that holds a zero character cannot be passed on. -/
  | invalidArgument (argument : String)
  /-- It was started, but its end was not learned. -/
  | wait (text : String)
  | unsupported
  deriving DecidableEq

namespace ProcessError

/-- The wording of a failure. -/
def message : ProcessError → String
  | .launch text => text
  | .invalidArgument argument => s!"Invalid argument: {Text.quote argument}"
  | .wait text => s!"Failed to wait for process: {text}"
  | .unsupported => "Process spawning is not supported on this platform"

end ProcessError

/-- A program and its arguments; `verbose` asks for reports of start and end. -/
structure Request where
  program : String
  arguments : List String
  verbose : Bool
  deriving DecidableEq

/-- How a program ended: its number, and its code unless a signal ended it. -/
structure Exit where
  pid : Nat
  code : Option Int
  deriving DecidableEq

/-- A program that ended by itself with code zero. -/
def Exit.isSuccess (e : Exit) : Bool :=
  e.code = some 0

namespace Request

/-- The dashes before a key: one before a single character, else two. -/
def dashes (key : String) : String :=
  if key.length = 1 then "-" else "--"

/-- Named parameters as a command line. -/
def formatParameters (named : List (String × String)) : String :=
  String.join (named.map fun (key, value) => s!" {dashes key}{key} {value}")

/-- The words of a command line. -/
def splitCommandLine (line : String) : List String :=
  (Text.words line.toList).map String.ofList

/-- A file of the program's name in the working directory. -/
def localProgram? (r : Request) (d : WorkingDirectory) (fs : FileSystem) : Option Path :=
  let here := d.resolve (Path.ofString r.program)
  if fs.pathExists here && !fs.isDirectory here then some here else none

/-- A file of that name in the working directory goes before any search. -/
def resolveProgram (r : Request) (d : WorkingDirectory) (fs : FileSystem) : Request :=
  match r.localProgram? d fs with
  | some here => { r with program := here.display }
  | none => r

end Request

end LuaShell
