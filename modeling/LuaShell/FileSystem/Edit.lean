import LuaShell.FileSystem.Lookup

/-!
# Single changes of a file system

Reading a file or a directory, and the changes that happen entirely or not at
all: a new directory, a new file, the removal of one entry, a rename, and a copy
of one file.  A change that fails answers no file system, so nothing can be lost
by it.
-/

namespace LuaShell.FileSystem

/-- The system's refusal. -/
def refuse {α : Type} (cause : Errno) : Except IoError α :=
  .error (.system cause)

/-! ## Reading -/

/-- The bytes of the file at a path. -/
def readFile (fs : FileSystem) (p : Path) : Except IoError ByteArray :=
  match fs.stat p with
  | .error e => .error e
  | .ok (.file id) => match fs.files[id]? with
    | some f => .ok f.bytes
    | none => refuse Errno.noEntry
  | .ok _ => refuse Errno.isDirectory

/-- The text of the file at a path. -/
def readText (fs : FileSystem) (p : Path) : Except IoError String :=
  match fs.readFile p with
  | .error e => .error e
  | .ok bytes => match Text.ofBytes? bytes with
    | .ok s => .ok s
    | .error _ => .error .notText

/-- What stands in the directory at a path, in the order of the directory. -/
def readDirectory (fs : FileSystem) (p : Path) : Except IoError (List (Name × Node)) :=
  match fs.stat p with
  | .error e => .error e
  | .ok (.dir es) => .ok es
  | .ok _ => refuse Errno.notDirectory

/-! ## Making -/

/-- Make an empty directory. -/
def makeDirectory (fs : FileSystem) (p : Path) : Except IoError FileSystem :=
  match fs.findParent p with
  | .error e => .error e
  | .ok (l, .name n _) => match fs.entryAt l n with
    | .error e => .error e
    | .ok (some _) => refuse Errno.fileExists
    | .ok none => .ok (fs.insert l n (.dir []))
  | .ok _ => refuse Errno.fileExists

/-- Make an empty file, unless the name is taken. -/
def createFile (fs : FileSystem) (p : Path) : Except IoError FileSystem :=
  match fs.findParent p with
  | .error e => .error e
  | .ok (_, .name _ true) => refuse Errno.isDirectory
  | .ok (l, .name n false) => match fs.entryAt l n with
    | .error e => .error e
    | .ok (some _) => refuse Errno.fileExists
    | .ok none => .ok (fs.insertFile l n ⟨.empty, File.defaultMode⟩)
  | .ok _ => refuse Errno.fileExists

/-! ## Removing -/

/-- Remove one entry that is no directory. -/
def removeFile (fs : FileSystem) (p : Path) : Except IoError FileSystem :=
  match fs.findParent p with
  | .error e => .error e
  | .ok (l, .name n slash) => match fs.entryAt l n with
    | .error e => .error e
    | .ok none => refuse Errno.noEntry
    | .ok (some (.dir _)) => refuse Errno.isDirectory
    | .ok (some _) => if slash then refuse Errno.notDirectory else .ok (fs.erase l n)
  | .ok _ => refuse Errno.isDirectory

/-- Where relative paths start after the directory at `l` has gone. -/
def hereWithout (l : Location) (here : Option Location) : Option Location :=
  here.filter fun h => !l.isPrefixOf h

/-- Remove one empty directory. -/
def removeDirectory (fs : FileSystem) (p : Path) : Except IoError FileSystem :=
  match fs.findParent p with
  | .error e => .error e
  | .ok (l, .name n _) => match fs.entryAt l n with
    | .error e => .error e
    | .ok none => refuse Errno.noEntry
    | .ok (some (.dir [])) =>
        .ok { fs.erase l n with here := hereWithout (l ++ [n]) fs.here }
    | .ok (some (.dir _)) => refuse Errno.notEmpty
    | .ok (some _) => refuse Errno.notDirectory
  | .ok (_, .current) => refuse Errno.invalid
  | .ok (_, .parent) => refuse Errno.notEmpty
  | .ok (_, .root) => refuse Errno.busy

/-! ## Renaming -/

/-- Two names of one file. -/
def sameFile : Node → Node → Bool
  | .file i, .file j => i = j
  | _, _ => false

/-- Whether an entry may take the place of another. -/
def mayReplace (source target : Node) : Except IoError Unit :=
  match source.isDir, target with
  | true, .dir [] => .ok ()
  | true, .dir _ => refuse Errno.notEmpty
  | true, _ => refuse Errno.notDirectory
  | false, .dir _ => refuse Errno.isDirectory
  | false, _ => .ok ()

/-- A location after everything at and below `a` has moved to `b`. -/
def relocate (a b h : Location) : Location :=
  if a.isPrefixOf h then b ++ h.drop a.length else h

/-- Move the entry `n` of the directory at `l` to the name `n'` in the directory at `l'`. -/
def moveEntry (fs : FileSystem) (l : Location) (n : Name) (l' : Location) (n' : Name)
    (source : Node) : FileSystem :=
  { ((fs.erase l n).insert l' n' source) with
    here := (hereWithout (l' ++ [n']) fs.here).map (relocate (l ++ [n]) (l' ++ [n'])) }

/-- Give an entry another name and place. -/
def rename (fs : FileSystem) (source target : Path) : Except IoError FileSystem :=
  match fs.findParent source, fs.findParent target with
  | .error e, _ => .error e
  | _, .error e => .error e
  | .ok (l, .name n slash), .ok (l', .name n' slash') =>
      match fs.entryAt l n, fs.entryAt l' n' with
      | .error e, _ => .error e
      | .ok none, _ => refuse Errno.noEntry
      | _, .error e => .error e
      | .ok (some v), .ok old =>
          if !v.isDir && (slash || slash') then refuse Errno.notDirectory
          else if (l ++ [n]).isPrefixOf l' then refuse Errno.invalid
          else if (l' ++ [n']).isPrefixOf l then refuse Errno.notEmpty
          else match old with
            | none => .ok (fs.moveEntry l n l' n' v)
            | some w =>
                if l ++ [n] = l' ++ [n'] || sameFile v w then .ok fs
                else match mayReplace v w with
                  | .error e => .error e
                  | .ok () => .ok (fs.moveEntry l n l' n' v)
  | .ok _, .ok _ => refuse Errno.busy

/-! ## Writing one file -/

/-- Where a file that is opened for writing stands or will stand: links in the last place
are gone through, and the file need not exist. -/
def writeSlot (root : Node) (links : Nat) (origin : Location) (p : Path) :
    Except Errno (Location × Name) :=
  match _hparent : parentFrom root links origin p with
  | .error e => .error e
  | .ok (l, left) => match lastStep p with
    | .name n false =>
        if Path.maxName < n.length then .error Errno.nameTooLong
        else match (root.at? l).bind (·.child? n) with
          | some (.link target) => match _hleft : left with
            | 0 => .error Errno.tooManyLinks
            | left + 1 => writeSlot root left (linkStart target l) target
          | some (.dir _) => .error Errno.isDirectory
          | _ => .ok (l, n)
    | _ => .error Errno.isDirectory
termination_by links
decreasing_by
  have := parentFrom_links_le _hparent
  omega

/-- The slot of a path that is to be written. -/
def findSlot (fs : FileSystem) (p : Path) : Except IoError (Location × Name) :=
  match p.refusal? with
  | some e => .error e
  | none => ((fs.start p).bind fun l => writeSlot fs.root Path.maxLinks l p).mapError .system

/-- Replace the bytes of a file, which is made if it is not there. -/
def writeFile (fs : FileSystem) (p : Path) (bytes : ByteArray) : Except IoError FileSystem :=
  match fs.findSlot p with
  | .error e => .error e
  | .ok (l, n) => match (fs.at? l).bind (·.child? n) with
    | some (.file id) =>
        let mode := ((fs.files[id]?).map (·.mode)).getD File.defaultMode
        .ok (fs.setFile id ⟨bytes, mode⟩)
    | _ => .ok (fs.insertFile l n ⟨bytes, File.defaultMode⟩)

/-- Copy the bytes and the permissions of a file. The target is emptied when it is opened,
before any byte has been read. -/
def copyFile (fs : FileSystem) (source target : Path) : Except IoError FileSystem :=
  match fs.stat source with
  | .error e => .error e
  | .ok (.file id) =>
      match fs.findSlot target with
      | .error e => .error e
      | .ok (l, n) =>
          let mode := ((fs.files[id]?).map (·.mode)).getD File.defaultMode
          match (fs.at? l).bind (·.child? n) with
          | some (.file old) =>
              let fs := fs.setFile old ⟨.empty, mode⟩
              let bytes := ((fs.files[id]?).map (·.bytes)).getD .empty
              .ok (fs.setFile old ⟨bytes, mode⟩)
          | _ =>
              let bytes := ((fs.files[id]?).map (·.bytes)).getD .empty
              .ok (fs.insertFile l n ⟨bytes, mode⟩)
  | .ok _ => .error .notRegular

end LuaShell.FileSystem
