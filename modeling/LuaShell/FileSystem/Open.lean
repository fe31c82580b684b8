import LuaShell.FileSystem.Edit

/-!
# Opening files

A file that has been opened is known by its number, so it stays what it is when its
name goes.  A directory can be opened, but only to be read, and reading it fails then.
-/

namespace LuaShell

/-- What a file is opened for. -/
structure OpenMode where
  reads : Bool
  writes : Bool
  /-- Whether it is made if it is not there. -/
  makes : Bool
  /-- Whether it is emptied. -/
  empties : Bool
  /-- Whether everything is written at its end. -/
  appends : Bool

/-- What has been opened. -/
inductive Opened where
  | file (id : Nat)
  | directory
  /-- It holds nothing and keeps nothing. -/
  | sink

namespace FileSystem

/-- The path of the file that keeps nothing. -/
def sinkPath : Path := Path.ofString "/dev/null"

/-- Open what is there. -/
def openExisting (fs : FileSystem) (p : Path) (writes : Bool) : Except IoError Opened :=
  match fs.stat p with
  | .error e => .error e
  | .ok (.file id) => .ok (.file id)
  | .ok _ => if writes then refuse Errno.isDirectory else .ok .directory

/-- Open a file that is made if it is not there. -/
def openOrMake (fs : FileSystem) (p : Path) (empties : Bool) :
    Except IoError (Opened × FileSystem) :=
  match fs.findSlot p with
  | .error e => .error e
  | .ok (l, n) => match (fs.at? l).bind (·.child? n) with
    | some (.file id) =>
        if empties then
          let mode := ((fs.files[id]?).map (·.mode)).getD File.defaultMode
          .ok (.file id, fs.setFile id ⟨.empty, mode⟩)
        else .ok (.file id, fs)
    | _ => .ok (.file fs.files.size, fs.insertFile l n ⟨.empty, File.defaultMode⟩)

/-- Open the file at a path. -/
def openFile (fs : FileSystem) (p : Path) (mode : OpenMode) :
    Except IoError (Opened × FileSystem) :=
  if p.bytes = sinkPath.bytes then .ok (.sink, fs)
  else if mode.makes then fs.openOrMake p mode.empties
  else (fs.openExisting p mode.writes).map fun o => (o, fs)

/-- The bytes of a file by its number. -/
def bytesOf (fs : FileSystem) (id : Nat) : ByteArray :=
  ((fs.files[id]?).map (·.bytes)).getD .empty

/-- Bytes with others put over them from a place on; what is missing before is zero. -/
def patched (bytes : ByteArray) (place : Nat) (piece : ByteArray) : ByteArray :=
  let gap : ByteArray := ⟨Array.replicate (place - bytes.size) 0⟩
  bytes.extract 0 place ++ gap ++ piece ++ bytes.extract (place + piece.size) bytes.size

/-- Write bytes into a file from a place on. -/
def writeAt (fs : FileSystem) (id place : Nat) (piece : ByteArray) : FileSystem :=
  match fs.files[id]? with
  | some f => fs.setFile id { f with bytes := patched f.bytes place piece }
  | none => fs

end FileSystem

end LuaShell
