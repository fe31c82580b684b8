import LuaShell.Command.Arguments

/-!
# File commands

Making, removing, renaming and copying entries.  Each operation answers the new
file system, or a failure with the file system as far as it was changed.
-/

namespace LuaShell.FileCommand

/-- What an operation answers, and the file system after it. -/
abbrev Outcome := Except CommandError Unit × FileSystem

/-- A refusal, which changes nothing. -/
def refuse (fs : FileSystem) (e : CommandError) : Outcome :=
  (.error e, fs)

/-- A change that happens entirely or not at all. -/
def single (fs : FileSystem) : Except IoError FileSystem → Outcome
  | .ok fs' => (.ok (), fs')
  | .error e => (.error (.io e), fs)

/-- A change of a tree. -/
def several : FileSystem.Outcome → Outcome
  | (.ok (), fs) => (.ok (), fs)
  | (.error e, fs) => (.error (.io e), fs)

/-- Make an empty file; one that is there already is left alone. -/
def createFile (fs : FileSystem) (p : Path) : Outcome :=
  match fs.createFile p with
  | .ok fs' => (.ok (), fs')
  | .error e => if e.isAlreadyExists then refuse fs (.alreadyExists p) else refuse fs (.io e)

/-- Make a directory; one that is there already will do. -/
def createDirectory (fs : FileSystem) (p : Path) : Outcome :=
  match fs.makeDirectory p with
  | .ok fs' => (.ok (), fs')
  | .error e => if e.isAlreadyExists && fs.isDirectory p then (.ok (), fs) else refuse fs (.io e)

/-- Remove a file. -/
def removeFile (fs : FileSystem) (p : Path) : Outcome :=
  if !fs.pathExists p then refuse fs (.fileNotFound p)
  else if fs.isDirectory p then refuse fs (.isDirectory p)
  else single fs (fs.removeFile p)

/-- Remove a directory and all below it. -/
def removeDirectory (fs : FileSystem) (p : Path) : Outcome :=
  if !fs.pathExists p then refuse fs (.directoryNotFound p)
  else if !fs.isDirectory p then refuse fs (.notDirectory p)
  else several (fs.removeTree p)

/-- Remove an entry of any kind. -/
def removeAny (fs : FileSystem) (p : Path) : Outcome :=
  match fs.lstat p with
  | .error e => refuse fs (.io e)
  | .ok (.dir _) => several (fs.removeTree p)
  | .ok _ => single fs (fs.removeFile p)

/-- Whether two paths name entries of one directory, as far as their texts tell. -/
def sameDirectory (source target : Path) : Bool :=
  let above (p : Path) : Option (List Component) := p.normalize.parent.map (·.components)
  above source = above target

/-- Give an entry another name in its directory. -/
def rename (fs : FileSystem) (source target : Path) : Outcome :=
  if sameDirectory source target then single fs (fs.rename source target)
  else refuse fs (.crossDirectoryRename source)

/-- Move an entry to another place. -/
def move (fs : FileSystem) (source target : Path) : Outcome :=
  single fs (fs.rename source target)

/-- Copy a file, or a directory and all below it. -/
def copy (fs : FileSystem) (source target : Path) : Outcome :=
  if fs.isDirectory source then
    if target.normalize.startsWith source.normalize then refuse fs (.copyIntoItself source)
    else several (fs.copyTree source target)
  else single fs (fs.copyFile source target)

/-! ## As commands -/

open Lua (Value)

/-- Carry out an operation on the files, and report its failure. -/
def apply (h : Host) (operation : FileSystem → FileCommand.Outcome) : CommandResult :=
  let (answer, files) := operation h.files
  { h with files := files }.settle answer

/-- A command that takes one path. -/
def onPath (command : String) (operation : FileSystem → Path → FileCommand.Outcome)
    (values : List Value) (h : Host) : CommandResult :=
  match (Arguments.mk command values).string 0 "path" with
  | .error e => (.error e, h)
  | .ok raw => apply h fun fs => operation fs (h.resolve raw)

/-- A command that takes two paths. -/
def onPaths (command : String) (operation : FileSystem → Path → Path → FileCommand.Outcome)
    (values : List Value) (h : Host) : CommandResult :=
  let a : Arguments := ⟨command, values⟩
  match a.string 0 "from" with
  | .error e => (.error e, h)
  | .ok source => match a.string 1 "to" with
    | .error e => (.error e, h)
    | .ok target => apply h fun fs => operation fs (h.resolve source) (h.resolve target)

end LuaShell.FileCommand
