import LuaShell.Lua.Interpreter
import LuaShell.Shell.Startup

/-!
# The command line

A run of the shell from its arguments to its exit code, on a host.  The log filter
and the colours come from the environment.
-/

namespace LuaShell.CommandLine

/-- The variable that names the log filter. -/
def logVariable : String := "LUASH_LOG"

/-- The log filter, and what is wrong with its text. -/
def logFilter (h : Host) (actions : List Startup) : Log.Filter × List String :=
  let otherwise := if actions.contains .debug then "debug" else "warn"
  Log.Filter.parse ((h.setting? logVariable).getD otherwise)

/-- What is written about a part of the log filter that is of no use. -/
def faultLine (fault : String) : String :=
  s!"warning: {fault}, ignoring it"

/-- Take the log filter and the colours from the environment. -/
def prepare (h : Host) (actions : List Startup) : Host :=
  let (filter, faults) := logFilter h actions
  faults.foldl (fun h f => h.complainLine (faultLine f))
    { h with log := filter, palette := Palette.ofEnvironment h.setting? }

/-- Report that there is no shell to run. -/
def refuse (e : ShellError) (h : Host) : Int × Host :=
  (1, h.reportError s!"Failed to start the shell: {e.message}")

/-- The host with the directory of the process as its working directory. -/
def enter (h : Host) : Except ShellError Host :=
  match Host.processDirectory? h.files with
  | .error e => .error (.directory (.unknown e))
  | .ok p => .ok { h with directory := ⟨p, some (Host.homeOf h.environment)⟩ }

/-- Build a shell and run the actions. -/
def runShell (arguments : List String) (actions : List Startup) (h : Host) : Int × Host :=
  let E := Lua.Interpreter.engine Lua.Interpreter.commands
  let finish := Lua.Interpreter.finish Lua.Interpreter.commands
  let m : Lua.World := ⟨h, Lua.Library.initialState⟩
  match Shell.build E Command.registry (Shell.runShellFor arguments) m with
  | (.error e, s) => refuse e s.machine.host
  | (.ok (), s) => match Shell.run E actions s with
    | (.ok code, s) => finish code s.machine
    | (.error e, s) =>
        finish 1 (s.machine.mapHost (·.reportError e.message))

/-- Run the shell; the answer is the exit code, of which the system keeps eight bits. -/
def run (arguments : List String) (h : Host) : Nat × Host :=
  let actions := Flag.parse arguments
  let h := prepare h actions
  let (code, h) := match enter h with
    | .error e => refuse e h
    | .ok h => runShell arguments actions h
  ((code % 256).toNat, h)

end LuaShell.CommandLine
