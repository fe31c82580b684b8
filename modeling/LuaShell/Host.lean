import LuaShell.FileSystem.Tree
import LuaShell.Process.Launch
import LuaShell.Console.Palette
import LuaShell.Console.Log

/-!
# The host of a shell

All that a command can see and change apart from the script engine: the files, the
environment, the working directory, the standard streams, and who starts programs.
-/

namespace LuaShell

/-- Who starts programs. -/
inductive Spawner where
  /-- The system itself. -/
  | posix
  /-- Nobody. -/
  | unsupported
  /-- Requests are noted and answered without starting anything. -/
  | recording (answer : Except ProcessError (Option Int))

namespace Spawner

/-- The name in log records. -/
def name : Spawner → String
  | .posix => "posix"
  | .unsupported => "unsupported"
  | .recording _ => "recording"

end Spawner

/-- The state of the host. -/
structure Host where
  files : FileSystem
  environment : List (String × String)
  directory : WorkingDirectory
  palette : Palette
  spawner : Spawner
  log : Log.Filter
  /-- What has not been read yet. -/
  input : List UInt8
  output : ByteArray
  errors : ByteArray
  /-- Requests that a recording spawner has got. -/
  requests : Array Request
  /-- The number of the next program. -/
  nextPid : Nat
  /-- The time, in seconds since the beginning of 1970. -/
  now : Int

namespace Host

/-- The value of an environment variable. -/
def setting? (h : Host) (name : String) : Option String :=
  h.environment.lookup name

/-- The home directory that an environment names; an empty name is no name. -/
def homeOf (environment : List (String × String)) : Path :=
  match environment.lookup "HOME" with
  | some text => if text.isEmpty then Path.ofString "/root" else Path.ofString text
  | none => Path.ofString "/root"

/-- The path of the process directory, if it is still there. -/
def processDirectory? (fs : FileSystem) : Except IoError Path :=
  match fs.here with
  | none => .error (.system Errno.noEntry)
  | some [] => .ok Path.rootDirectory
  | some l => .ok ⟨Path.slash :: Path.unparts l⟩

/-- Write bytes to the standard output. -/
def writeBytes (h : Host) (bytes : ByteArray) : Host :=
  { h with output := h.output ++ bytes }

/-- Write a text to the standard output. -/
def print (h : Host) (text : String) : Host :=
  { h with output := h.output ++ text.toUTF8 }

/-- Write a line to the standard output. -/
def printLine (h : Host) (text : String) : Host :=
  h.print (text ++ "\n")

/-- Write a text to the error stream. -/
def complain (h : Host) (text : String) : Host :=
  { h with errors := h.errors ++ text.toUTF8 }

/-- Write a line to the error stream. -/
def complainLine (h : Host) (text : String) : Host :=
  h.complain (text ++ "\n")

/-- Report a failure. -/
def reportError (h : Host) (message : String) : Host :=
  h.complainLine s!"{h.palette.errorTag} {message}"

/-- Report something odd. -/
def reportWarning (h : Host) (message : String) : Host :=
  h.complainLine s!"{h.palette.warningTag} {message}"

/-- Write a log record if it is asked for. -/
def record (h : Host) (level : Log.Level) (target message : String) : Host :=
  if h.log.admits level target message then h.complain (Log.line level target message) else h

/-- The path that a text stands for. -/
def resolve (h : Host) (raw : String) : Path :=
  h.directory.resolve (Path.ofString raw)

/-- Change the working directory. -/
def changeDirectory (h : Host) (target : DirectoryTarget) : Except PathError Unit × Host :=
  match h.directory.change h.files.isDirectory target with
  | .error e => (.error e, h)
  | .ok d =>
      let h := match target with
        | .up _ => h
        | .path _ => h.record .debug "luash::path::state"
            s!"changing directory to {d.current.display}"
      (.ok (), { h with directory := d })

/-- What stands before a line of input. -/
def prompt (h : Host) : String :=
  s!"{h.directory.current.display}> "

end Host

end LuaShell
