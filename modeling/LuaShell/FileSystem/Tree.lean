import LuaShell.FileSystem.Edit

/-!
# Changes of whole trees

Directories with all that is missing above them, and the removal and the copy of
a tree.  These work step by step: a failure on the way leaves what has been done.
-/

namespace LuaShell.FileSystem

/-- What a change of a tree answers, and the file system after it. -/
abbrev Outcome := Except IoError Unit × FileSystem

/-- A change that happens entirely or not at all, as an outcome. -/
def attempt (fs : FileSystem) : Except IoError FileSystem → Outcome
  | .ok fs' => (.ok (), fs')
  | .error e => (.error e, fs)

/-- The directory at `l`, emptied. -/
def clear (fs : FileSystem) (l : Location) : FileSystem :=
  { fs with
    root := fs.root.update (fun _ => .dir []) l
    here := fs.here.filter fun h => h = l || !l.isPrefixOf h }

/-- Whether a failure says that something on the way is missing. -/
def isMissing (e : IoError) : Bool :=
  e = .system Errno.noEntry || e = .notFound

/-- Remove a directory that has been emptied; one that is not found any more is as good as
removed. -/
def removeEmptied (fs : FileSystem) (p : Path) : Outcome :=
  match fs.removeDirectory p with
  | .ok fs' => (.ok (), fs')
  | .error e => (if isMissing e then .ok () else .error e, fs)

/-- Remove an entry and all below it; links are removed and not followed. A directory is
emptied before it goes, so when it cannot go it stays behind empty. -/
def removeTree (fs : FileSystem) (p : Path) : Outcome :=
  match fs.lstat p, fs.find false p with
  | .error e, _ => (.error e, fs)
  | _, .error e => (.error e, fs)
  | .ok (.link _), _ => fs.attempt (fs.removeFile p)
  | .ok (.file _), _ => (refuse Errno.notDirectory, fs)
  | .ok (.dir _), .ok l => (fs.clear l).removeEmptied p

/-- A directory that is there already is as good as a new one. -/
def acceptDirectory (fs : FileSystem) (p : Path) : Except IoError FileSystem → Outcome
  | .ok fs' => (.ok (), fs')
  | .error e => if fs.isDirectory p then (.ok (), fs) else (.error e, fs)

/-- Make a directory and those above it; `levels` bounds how many may be missing. -/
def makeDirectories (levels : Nat) (fs : FileSystem) (p : Path) : Outcome :=
  if p.bytes = [] then (.ok (), fs)
  else match fs.makeDirectory p with
    | .ok fs' => (.ok (), fs')
    | .error e =>
        if !isMissing e then fs.acceptDirectory p (.error e)
        else match p.parent, levels with
          | some above, levels + 1 =>
              match makeDirectories levels fs above with
              | (.ok (), fs') => fs'.acceptDirectory p (fs'.makeDirectory p)
              | failed => failed
          | _, _ => (.error (.other "failed to create whole tree"), fs)

/-- Make a directory with all that is missing above it. -/
def makeAllDirectories (fs : FileSystem) (p : Path) : Outcome :=
  makeDirectories p.bytes.length fs p

/-- Copy one entry; `copyDirectory` copies it if it is a directory. -/
def copyEntry (copyDirectory : FileSystem → Path → Path → Outcome) (source target : Path)
    (fs : FileSystem) (name : Name) (node : Node) : Outcome :=
  if node.isDir then copyDirectory fs (source.push name) (target.push name)
  else fs.attempt (fs.copyFile (source.push name) (target.push name))

/-- Copy the given entries of a directory, in order. -/
def copyEntries (copyDirectory : FileSystem → Path → Path → Outcome) (source target : Path)
    (fs : FileSystem) : List (Name × Node) → Outcome
  | [] => (.ok (), fs)
  | (name, node) :: rest =>
      match copyEntry copyDirectory source target fs name node with
      | (.ok (), fs') => copyEntries copyDirectory source target fs' rest
      | failed => failed

/-- Make the directory that entries are copied to, unless something is there already. -/
def makeTarget (fs : FileSystem) (target : Path) : Outcome :=
  if fs.pathExists target then (.ok (), fs) else fs.makeAllDirectories target

/-- Copy what a directory holds to `target`, which is made if it is not there. Every level
makes the path longer, so after as many levels as a path can have bytes it is too long. -/
def copyLevels (levels : Nat) (fs : FileSystem) (source target : Path) : Outcome :=
  match levels with
  | 0 => (refuse Errno.nameTooLong, fs)
  | levels + 1 =>
      match fs.makeTarget target with
      | (.ok (), fs') => match fs'.readDirectory source with
        | .error e => (.error e, fs')
        | .ok entries => copyEntries (copyLevels levels) source target fs' entries
      | failed => failed

/-- Copy a directory and all below it; links to files are copied as files. -/
def copyTree (fs : FileSystem) (source target : Path) : Outcome :=
  copyLevels (Path.maxLength + 1) fs source target

end LuaShell.FileSystem
