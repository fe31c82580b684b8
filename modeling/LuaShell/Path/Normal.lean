import LuaShell.Path.Basic

/-!
# Normal paths

Folding the dots out of a path without looking at any directory: a dot goes
away, two dots take the component before them along, and at the root they stay
at the root.  The fold works on the text that has been put together so far.
-/

namespace LuaShell.Path

/-- Follow one component from the path put together so far. -/
def follow (p : Path) : Component → Path
  | .root => p.join rootDirectory
  | .current => p
  | .parent => p.pop
  | .name n => p.push n

/-- The path with its dots folded. -/
def normalize (p : Path) : Path :=
  p.components.foldl follow empty

end LuaShell.Path
