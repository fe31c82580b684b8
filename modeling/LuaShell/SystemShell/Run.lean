import LuaShell.Host
import LuaShell.FileSystem.Open
import LuaShell.SystemShell.Syntax

/-!
# Running system scripts

What a running script has: variables, functions, the streams that its commands write
to, and the outcome of the last command.
-/

namespace LuaShell.SystemShell

/-- Where the bytes go that are written to a stream. -/
inductive Sink where
  | output
  | errors
  /-- The end of a file. -/
  | file (id : Nat)
  /-- They are kept for another command. -/
  | kept (place : Nat)
  | nowhere

/-- How a script goes on after a command. -/
inductive Flow where
  | normal
  /-- So many loops are left. -/
  | leave (loops : Nat)
  /-- So many loops but one are left, and that one goes on. -/
  | again (loops : Nat)
  | giveBack
  | exit
  /-- A signal ended a process. -/
  | killed (process signal : Nat)
  deriving DecidableEq

/-- The signal that ended a process, if one did. -/
def Flow.signal? : Flow → Option Nat
  | .killed _ signal => some signal
  | _ => none

/-- A running script. -/
structure Run where
  host : Host
  /-- The number of the process that the script is. -/
  process : Nat
  name : String
  arguments : List String
  bindings : List (String × String)
  exported : List String
  /-- Variables that keep their values. -/
  fixed : List String
  functions : List (String × Command)
  /-- What the variables were before they became local ones, function by function. -/
  locals : List (List (String × Option String))
  streams : List (Nat × Sink)
  kept : Array ByteArray
  /-- The outcome of the last command. -/
  status : Nat
  flow : Flow
  /-- How many loops the command that runs is in. -/
  loops : Nat
  /-- The line of the command that runs. -/
  line : Nat
  /-- Options that are on, by their letters. -/
  options : List Char
  /-- Whether a failure of the command that runs is of no importance. -/
  isTested : Bool
  /-- What is run when the script ends. -/
  farewell : Option (List Char)
  /-- What is run on signals, and the signals for which that has still to be done. -/
  traps : List (Nat × String)
  signalled : List Nat
  /-- The file that is read in place of the script. -/
  source : Option String
  /-- The outcome of the last command that ran while the script went on. -/
  behind : Option Nat
  /-- Whether what runs is such a command, and what such commands have written, to the output or
  to the error stream. -/
  isBehind : Bool
  late : List (Bool × ByteArray)

namespace Run

/-- A script that has not begun. -/
def start (h : Host) (name : String) (arguments : List String) : Run where
  host := h
  process := h.nextPid
  name := name
  arguments := arguments
  bindings := h.environment
  exported := h.environment.map (·.1)
  fixed := []
  functions := []
  locals := []
  streams := [(1, .output), (2, .errors)]
  kept := #[]
  status := 0
  flow := .normal
  loops := 0
  line := 1
  options := []
  isTested := false
  farewell := none
  traps := []
  signalled := []
  source := none
  behind := none
  isBehind := false
  late := []

/-! ## Streams -/

/-- Where a stream goes. -/
def sink (r : Run) (stream : Nat) : Sink :=
  (r.streams.lookup stream).getD .nowhere

/-- Let a stream go somewhere. -/
def setSink (r : Run) (stream : Nat) (s : Sink) : Run :=
  { r with streams := (stream, s) :: r.streams.filter (·.1 ≠ stream) }

/-- Write bytes to the output or to the error stream. -/
def writeOut (r : Run) (isError : Bool) (bytes : ByteArray) : Run :=
  if isError then { r with host := { r.host with errors := r.host.errors ++ bytes } }
  else { r with host := r.host.writeBytes bytes }

/-- Write what commands have written while the script went on, unless it is such a command
itself. -/
def settle (r : Run) : Run :=
  if r.isBehind then r
  else r.late.foldl (fun r part => r.writeOut part.1 part.2) { r with late := [] }

/-- Write bytes to a stream. -/
def write (r : Run) (stream : Nat) (bytes : ByteArray) : Run :=
  let out (isError : Bool) : Run :=
    if r.isBehind then { r with late := r.late ++ [(isError, bytes)] }
    else r.writeOut isError bytes
  match r.sink stream with
  | .output => out false
  | .errors => out true
  | .file id =>
      let fs := r.host.files
      { r with host := { r.host with files := fs.writeAt id (fs.bytesOf id).size bytes } }
  | .kept place => { r with kept := r.kept.modify place (· ++ bytes) }
  | .nowhere => r

/-- Write a text to the standard output. -/
def say (r : Run) (text : String) : Run := r.write 1 text.toUTF8

/-- Write a text to the error stream. -/
def complain (r : Run) (text : String) : Run := r.write 2 text.toUTF8

/-- End a command with an outcome. -/
def done (r : Run) (status : Nat) : Run := { r with status := status }

/-- End a command with a complaint. -/
def fail (r : Run) (status : Nat) (message : String) : Run :=
  (r.complain (message ++ "\n")).done status

/-- A complaint of a command of the script itself. -/
def failHere (r : Run) (status : Nat) (message : String) : Run :=
  r.fail status s!"{r.name}: {r.line}: {message}"

/-- A complaint about what the script says. -/
def failAt (r : Run) (status : Nat) (message : String) : Run :=
  r.failHere status ((r.source.elim "" (· ++ ": ")) ++ message)

/-- The stream that a name of a file stands for. -/
def namedStream? (name : String) : Option Nat :=
  [("/dev/stdin", 0), ("/dev/stdout", 1), ("/dev/stderr", 2)].lookup name

/-- Take all that is left of the input. -/
def takeInput (r : Run) : List UInt8 × Run :=
  (r.host.input, { r with host := { r.host with input := [] } })

/-! ## Variables -/

/-- The directory of the script. -/
def directory (r : Run) : String :=
  match Host.processDirectory? r.host.files with
  | .ok p => p.display
  | .error _ => ""

/-- The value of a variable, if it is set. -/
def lookup? (r : Run) (name : String) : Option String :=
  r.bindings.lookup name

/-- Set a variable. Setting one that keeps its value ends the script. -/
def setVariable (r : Run) (name value : String) : Run :=
  if r.fixed.contains name then { r.failAt 2 s!"{name}: is read only" with flow := .exit }
  else { r with bindings := (name, value) :: r.bindings.filter (·.1 ≠ name) }

/-- Unset a variable. -/
def unsetVariable (r : Run) (name : String) : Run :=
  { r with
    bindings := r.bindings.filter (·.1 ≠ name)
    exported := r.exported.filter (· ≠ name) }

/-- Let the programs that are started have a variable. -/
def exportVariable (r : Run) (name : String) : Run :=
  if r.exported.contains name then r else { r with exported := name :: r.exported }

/-- The environment of programs that are started. -/
def environment (r : Run) : List (String × String) :=
  r.bindings.filter fun v => r.exported.contains v.1

/-- The value of a parameter, if it is set. -/
def parameter? (r : Run) (name : String) : Option String :=
  match name with
  | "0" => some r.name
  | "#" => some (toString r.arguments.length)
  | "?" => some (toString r.status)
  | "$" => some (toString r.process)
  | "!" => r.behind.map fun _ => toString (r.process + 1)
  | "-" => some (String.ofList r.options)
  | "@" | "*" =>
      if r.arguments.isEmpty then none else some (" ".intercalate r.arguments)
  | _ => match name.toNat? with
    | some n => r.arguments[n - 1]?
    | none => match name, r.lookup? name with
      | "PWD", none => some r.directory
      | _, v => v

/-- Do something in a script of its own, of which only what it does to the host and to streams
is left. -/
def isolated (r : Run) (act : Run → Run) : Run :=
  let after := act { r with farewell := none, traps := r.traps.filter (·.2.isEmpty) }
  let host := { after.host with files := { after.host.files with here := r.host.files.here } }
  { r with
    host := host
    kept := after.kept
    late := after.late
    status := after.status
    flow := if after.flow.signal?.isSome then after.flow else r.flow }

/-- Whether the script goes on with its next command. -/
def goesOn (r : Run) : Bool := r.flow = .normal

end Run

end LuaShell.SystemShell
