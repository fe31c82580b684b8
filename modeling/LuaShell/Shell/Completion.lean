import LuaShell.Host
import LuaShell.Text.Letter

/-!
# Completion

What can stand at the cursor: inside a string that has been opened the entries of a
directory, elsewhere the names of commands.  Places in a line are counted in bytes.
-/

namespace LuaShell.Completion

/-- What is shown, and what takes the place of the text before the cursor. -/
structure Candidate where
  display : String
  replacement : String
  deriving DecidableEq

/-- The number of bytes of a text. -/
def byteLength : List Char → Nat
  | [] => 0
  | c :: cs => c.utf8Size + byteLength cs

/-- Where the string that is still open begins, after its quote. `opened` is the quote of the
string around the place `index`, and where it stands. -/
def openStringFrom (index : Nat) (opened : Option (Nat × Char)) : List Char → Option Nat
  | [] => opened.map fun o => o.1 + 1
  | c :: cs =>
      let opened := match opened with
        | some (start, quote) => if c = quote then none else some (start, quote)
        | none => if c = '"' || c = '\'' then some (index, c) else none
      openStringFrom (index + c.utf8Size) opened cs

/-- Where the string that is still open at the end of a line begins. -/
def openStringStart? (line : List Char) : Option Nat :=
  openStringFrom 0 none line

/-- A character of a name. -/
def isNameChar (c : Char) : Bool :=
  Text.isAlphanumeric c || c = '_'

/-- The name at the end of a line. -/
def lastName (line : List Char) : List Char :=
  (line.reverse.takeWhile isNameChar).reverse

/-- Where the name at the end of a line begins. -/
def nameStart (line : List Char) : Nat :=
  byteLength line - byteLength (lastName line)

/-- Names in order, none twice. -/
def sortedNames (names : List String) : List String :=
  (names.mergeSort (· ≤ ·)).eraseReps

/-- The commands that begin with a text. -/
def completeCommand (names : List String) (typed : String) : List Candidate :=
  ((sortedNames names).filter (typed.toList.isPrefixOf ·.toList)).map fun n => ⟨n, n⟩

/-- Either separator ends the directory part of a typed path. -/
def isSeparator (c : Char) : Bool :=
  c = '/' || c = '\\'

/-- A typed path cut after its last separator. -/
def splitTyped (typed : List Char) : List Char × List Char :=
  let name := (typed.reverse.takeWhile fun c => !isSeparator c).reverse
  (typed.take (typed.length - name.length), name)

/-- The directory that is searched for a typed path. -/
def searchDirectory (current : Path) (directory : List Char) : Path :=
  current.join (Path.ofString (String.ofList directory))

/-- The candidate for an entry, if its name is text and begins as typed. -/
def candidate? (directory name : List Char) (entry : Name × Node) : Option Candidate :=
  match Text.decode? entry.1 with
  | .error _ => none
  | .ok cs =>
      if name.isPrefixOf cs then
        let shown := if entry.2.isDir then cs ++ ['/'] else cs
        some ⟨String.ofList shown, String.ofList (directory ++ shown)⟩
      else none

/-- The entries that a path typed inside a string can go on with. -/
def completePath (fs : FileSystem) (current : Path) (typed : List Char) : List Candidate :=
  let (directory, name) := splitTyped typed
  match fs.readDirectory (searchDirectory current directory) with
  | .error _ => []
  | .ok entries =>
      (entries.filterMap (candidate? directory name)).mergeSort fun a b => a.display ≤ b.display

/-- The characters of a text up to a number of bytes. -/
def takeBytes : Nat → List Char → List Char
  | _, [] => []
  | n, c :: cs => if c.utf8Size ≤ n then c :: takeBytes (n - c.utf8Size) cs else []

/-- The characters of a text after a number of bytes. -/
def dropBytes : Nat → List Char → List Char
  | _, [] => []
  | n, c :: cs => if c.utf8Size ≤ n then dropBytes (n - c.utf8Size) cs else c :: cs

/-- Complete a line at a cursor: where the replaced text begins, and the candidates. -/
def complete (names : List String) (fs : FileSystem) (current : Path) (line : String)
    (cursor : Nat) : Nat × List Candidate :=
  let before := takeBytes cursor line.toList
  match openStringStart? before with
  | some start => (start, completePath fs current (dropBytes start before))
  | none => (nameStart before, completeCommand names (String.ofList (lastName before)))

end LuaShell.Completion
