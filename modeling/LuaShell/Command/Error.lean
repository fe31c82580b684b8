import LuaShell.Process.Request

/-!
# Failures of commands

Every way in which a command can fail, with its wording.  A request to leave the
shell is one of them, since it too has to end the script that made it.
-/

namespace LuaShell

/-- Why a command failed. -/
inductive CommandError where
  | badParameters (command : String)
  | missingArgument (command name : String)
  | invalidArgument (command message : String)
  | alreadyExists (path : Path)
  | fileNotFound (path : Path)
  | directoryNotFound (path : Path)
  | isDirectory (path : Path)
  | notDirectory (path : Path)
  | crossDirectoryRename (path : Path)
  | copyIntoItself (path : Path)
  | unreadable (path : String) (source : IoError)
  | executionFailed (path reason : String)
  /-- The shell is to end with this code. -/
  | exit (code : Int)
  | io (source : IoError)
  | directory (source : PathError)
  | process (source : ProcessError)

namespace CommandError

/-- The wording of a failure. -/
def message : CommandError → String
  | .badParameters command => s!"Bad parameters passed to {command}"
  | .missingArgument command name => s!"{command}: missing argument '{name}'"
  | .invalidArgument command message => s!"{command}: {message}"
  | .alreadyExists path => s!"File {path.display} already exists."
  | .fileNotFound path => s!"File {path.display} doesn't exist."
  | .directoryNotFound path => s!"Directory {path.display} doesn't exist."
  | .isDirectory path =>
      s!"Entity {path.display} is a directory. Try removeDir('{path.display}') or rm('{path.display}') instead."
  | .notDirectory path =>
      s!"Entity {path.display} is a file. Try removeFile('{path.display}') or rm('{path.display}') instead."
  | .crossDirectoryRename path =>
      s!"Tried to move {path.display} to a new location. Use move('from', 'to') instead."
  | .copyIntoItself path => s!"Cannot copy directory {path.display} into itself."
  | .unreadable path source => s!"Cannot load file content of {path}: {source.message}"
  | .executionFailed path reason => s!"Failure to execute {path}: {reason}"
  | .exit code => s!"exit requested with code {code}"
  | .io source => source.message
  | .directory source => source.message
  | .process source => source.message

/-- The failure below this one. -/
def source? : CommandError → Option String
  | .unreadable _ source => some source.message
  | .io source => some source.message
  | .directory source => some source.message
  | .process source => some source.message
  | _ => none

/-- The name of a cause with what it holds, for traces. -/
def detail : CommandError → String
  | .badParameters command => named "BadParameters" (Text.quote command)
  | .missingArgument command name => fields "MissingArgument"
      ["command: " ++ Text.quote command, "name: " ++ Text.quote name]
  | .invalidArgument command message => fields "InvalidArgument"
      ["command: " ++ Text.quote command, "message: " ++ Text.quote message]
  | .alreadyExists path => named "AlreadyExists" (quoted path)
  | .fileNotFound path => named "FileNotFound" (quoted path)
  | .directoryNotFound path => named "DirectoryNotFound" (quoted path)
  | .isDirectory path => named "IsADirectory" (quoted path)
  | .notDirectory path => named "NotADirectory" (quoted path)
  | .crossDirectoryRename path => named "CrossDirectoryRename" (quoted path)
  | .copyIntoItself path => named "CopyIntoItself" (quoted path)
  | .unreadable path source => fields "Unreadable"
      ["path: " ++ Text.quote path, "source: " ++ source.detail]
  | .executionFailed path reason => fields "ExecutionFailed"
      ["path: " ++ Text.quote path, "reason: " ++ Text.quote reason]
  | .exit code => named "Exit" (toString code)
  | .io source => named "IoError" source.detail
  | .directory source => named "PathError" (match source with
    | .notDirectory path => named "NotADirectory" (quoted path)
    | .noHome => "HomeDirNotFound"
    | .unknown cause => named "Io" cause.detail)
  | .process source => named "ProcessError" (match source with
    | .launch text => named "Launch" (Text.quote text)
    | .invalidArgument argument => named "InvalidArgument" (Text.quote argument)
    | .wait text => named "Wait" (Text.quote text)
    | .unsupported => "Unsupported")
where
  named (name content : String) : String := s!"{name}({content})"
  fields (name : String) (content : List String) : String :=
    name ++ " \x7b " ++ ", ".intercalate content ++ " \x7d"
  quoted (path : Path) : String := Text.quoteBytes path.bytes

end CommandError

end LuaShell
