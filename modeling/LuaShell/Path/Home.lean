import LuaShell.Path.Basic

/-!
# The home directory

A leading `~` stands for the home directory, alone or before a separator.  After
a separator every part goes below the home directory one by one, a backslash
separating as well as a slash; `~user` stands for itself.
-/

namespace LuaShell.Path

/-- The mark of the home directory. -/
def tilde : UInt8 := 126

/-- A backslash, which separates after a tilde only. -/
def backslash : UInt8 := 92

/-- Either of the two separators. -/
def isSeparator (b : UInt8) : Bool :=
  b = slash || b = backslash

/-- Whether a text begins with the mark. -/
def isHomePath (raw : Path) : Bool :=
  raw.bytes.head? = some tilde

/-- What stands between the separators, empty parts left out. -/
def separated : List UInt8 → List Name
  | [] => []
  | b :: bs =>
      if isSeparator b then separated bs
      else match bs with
        | [] => [[b]]
        | c :: _ =>
          if isSeparator c then [b] :: separated bs
          else match separated bs with
            | [] => [[b]]
            | p :: ps => (b :: p) :: ps

/-- The path that a text with a leading mark stands for; none if it needs a home
directory and there is none. -/
def expandHome (home : Option Path) (raw : Path) : Option Path :=
  match raw.bytes with
  | b :: rest =>
      if b = tilde then
        match rest with
        | [] => home
        | c :: tail =>
          if isSeparator c then home.map fun h => (separated tail).foldl push h
          else some raw
      else some raw
  | [] => some raw

end LuaShell.Path
