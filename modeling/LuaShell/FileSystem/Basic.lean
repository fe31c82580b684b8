import LuaShell.FileSystem.Error
import LuaShell.Path.Basic

/-!
# File systems

A tree of named entries: directories, links and files.  A link holds the path it
points to.  A file entry holds a number only, and the bytes stand in a table, so
that one file can have several names.  An entry stands at a `Location`: the names
that lead from the root to it through directories alone.
-/

namespace LuaShell

/-- The bytes of a file and its permission bits. -/
structure File where
  bytes : ByteArray
  mode : Nat

/-- Permission bits of a file that was just made. -/
def File.defaultMode : Nat := 0o644

/-- An entry and what is below it. -/
inductive Node where
  | file (id : Nat)
  | link (target : Path)
  | dir (entries : List (Name × Node))

/-- The names from the root to an entry. -/
abbrev Location := List Name

namespace Node

/-- What stands directly below; nothing but for a directory. -/
def entries : Node → List (Name × Node)
  | .dir es => es
  | _ => []

def isDir : Node → Bool
  | .dir _ => true
  | _ => false

def isLink : Node → Bool
  | .link _ => true
  | _ => false

/-- The entry of a name in a list of entries. -/
def child? (n : Node) (name : Name) : Option Node :=
  n.entries.lookup name

/-- The entry at a location. -/
def at? : Node → Location → Option Node
  | n, [] => some n
  | n, x :: xs => (n.child? x).bind (·.at? xs)

/-- Change the entry at a location, if there is one. -/
def update (f : Node → Node) : Location → Node → Node
  | [], n => f n
  | x :: xs, .dir es =>
      .dir (es.map fun e => if e.1 = x then (e.1, e.2.update f xs) else e)
  | _ :: _, n => n

/-- A directory with one entry more, or with another entry of that name. -/
def insert (name : Name) (v : Node) : Node → Node
  | .dir es => .dir (es.filter (·.1 ≠ name) ++ [(name, v)])
  | n => n

/-- A directory without the entry of a name. -/
def erase (name : Name) : Node → Node
  | .dir es => .dir (es.filter (·.1 ≠ name))
  | n => n

end Node

/-- All files and directories, and the directory from which relative paths start. -/
structure FileSystem where
  root : Node
  files : Array File
  /-- `none` once that directory has been removed. -/
  here : Option Location

namespace FileSystem

/-- A root directory and nothing in it. -/
def empty : FileSystem := ⟨.dir [], #[], some []⟩

instance : Inhabited FileSystem := ⟨empty⟩

/-- The entry at a location. -/
def at? (fs : FileSystem) (l : Location) : Option Node :=
  fs.root.at? l

/-- The file that an entry names. -/
def file? (fs : FileSystem) : Node → Option File
  | .file id => fs.files[id]?
  | _ => none

/-- Put an entry into the directory at `l`. -/
def insert (fs : FileSystem) (l : Location) (name : Name) (v : Node) : FileSystem :=
  { fs with root := fs.root.update (Node.insert name v) l }

/-- Take an entry out of the directory at `l`. -/
def erase (fs : FileSystem) (l : Location) (name : Name) : FileSystem :=
  { fs with root := fs.root.update (Node.erase name) l }

/-- Make a file of the given content and put it into the directory at `l`. -/
def insertFile (fs : FileSystem) (l : Location) (name : Name) (f : File) : FileSystem :=
  { fs.insert l name (.file fs.files.size) with files := fs.files.push f }

/-- Change the file of a number. -/
def setFile (fs : FileSystem) (id : Nat) (f : File) : FileSystem :=
  { fs with files := fs.files.setIfInBounds id f }

end FileSystem

end LuaShell
