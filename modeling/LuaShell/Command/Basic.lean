import LuaShell.Command.General

/-!
# Commands

The native commands, the names they are bound to, and how each is carried out.
Wrong arguments raise an error in the script; a failure of the operation itself is
reported and the command answers nothing.
-/

namespace LuaShell

open Lua (Value)

/-- The native commands. -/
inductive Command where
  | print
  | read
  | execute
  | quit
  | version
  | changeDirectory
  | listFiles
  | runSync
  | createFile
  | createDirectory
  | removeFile
  | removeDirectory
  | removeAny
  | rename
  | move
  | copy
  | help
  deriving DecidableEq

namespace Command

/-- The names of every command, in the order in which they are bound. -/
def defaults : List (String × Command) :=
  [("print", .print), ("read", .read), ("execute", .execute), ("quit", .quit), ("exit", .quit),
   ("version", .version), ("cd", .changeDirectory), ("changeDirectory", .changeDirectory),
   ("changeDir", .changeDirectory), ("ls", .listFiles), ("ll", .listFiles),
   ("runSync", .runSync), ("createFile", .createFile), ("touch", .createFile),
   ("createDirectory", .createDirectory), ("createDir", .createDirectory),
   ("mkdir", .createDirectory), ("removeFile", .removeFile), ("rf", .removeFile),
   ("removeDirectory", .removeDirectory), ("removeDir", .removeDirectory),
   ("rd", .removeDirectory), ("rm", .removeAny), ("rename", .rename), ("move", .move),
   ("mv", .move), ("copy", .copy), ("cp", .copy), ("help", .help)]

/-- The first of a command's names, by which its callback is known. -/
def callback (c : Command) : Callback :=
  ⟨((defaults.find? (·.2 = c)).map (·.1)).getD ""⟩

/-- The command of a callback. -/
def ofCallback? (cb : Callback) : Option Command :=
  defaults.lookup cb.id

/-- The registry of the native commands. -/
def registry : Registry :=
  .ofList (defaults.map fun d => (d.1, d.2.callback))

section

variable {ε χ : Type} (E : Engine ε χ)

/-- Carry out what needs nothing but the host. -/
def onHost (m : Machine ε) (f : Host → CommandResult) : Answer ε (List Value) :=
  let (answer, h) := f m.host
  (answer, { m with host := h })

/-- Carry out a command. -/
def invoke (c : Command) (values : List Value) (m : Machine ε) : Answer ε (List Value) :=
  match c with
  | .print => GeneralCommand.print E values m
  | .read => onHost m (GeneralCommand.read values)
  | .execute => RunCommand.execute E values m
  | .quit => onHost m (RunCommand.quit values)
  | .version => GeneralCommand.version E m
  | .changeDirectory => onHost m (DirectoryCommand.changeDirectory values)
  | .listFiles => DirectoryCommand.listFiles E values m
  | .runSync => RunCommand.runSync E values m
  | .createFile => onHost m (FileCommand.onPath "createFile" FileCommand.createFile values)
  | .createDirectory => onHost m (FileCommand.onPath "createDirectory" FileCommand.createDirectory values)
  | .removeFile => onHost m (FileCommand.onPath "removeFile" FileCommand.removeFile values)
  | .removeDirectory => onHost m (FileCommand.onPath "removeDirectory" FileCommand.removeDirectory values)
  | .removeAny => onHost m (FileCommand.onPath "rm" FileCommand.removeAny values)
  | .rename => onHost m (FileCommand.onPaths "rename" FileCommand.rename values)
  | .move => onHost m (FileCommand.onPaths "move" FileCommand.move values)
  | .copy => onHost m (FileCommand.onPaths "copy" FileCommand.copy values)
  | .help => onHost m GeneralCommand.help

end

end Command

end LuaShell
