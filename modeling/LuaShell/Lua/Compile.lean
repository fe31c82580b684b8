import LuaShell.Lua.Grammar
import LuaShell.Lua.Naming

/-!
# Compiling chunks

From the bytes of a source to the function of a chunk, and from there into the state
of the engine.  Every function in a chunk knows the name of the chunk.
-/

namespace LuaShell.Lua

/-- Why a source is no chunk. -/
inductive CompileFault where
  /-- It does not follow the grammar. -/
  | grammar (message : ByteArray)
  /-- It is nested too deeply. -/
  | depth
  /-- It is no text. -/
  | binary

namespace CompileFault

/-- The wording of a fault. -/
def message : CompileFault → ByteArray
  | .grammar text => text
  | .depth => "C stack overflow".toUTF8
  | .binary => "attempt to load a binary chunk (mode is 't')".toUTF8

end CompileFault

/-- Name the chunk that a function and those in it come from. -/
def Proto.withSource (name : ByteArray) (p : Proto) : Proto :=
  { p with
    source := some name
    protos := p.protos.attach.map fun ⟨q, _⟩ => q.withSource name }
termination_by sizeOf p
decreasing_by
  have h := Array.sizeOf_lt_of_mem ‹q ∈ p.protos›
  cases p
  simp_all
  omega

namespace Chunk

/-- Compile a source under a chunk name, below so many calls that wait for it. -/
def compile (source name : ByteArray) (level : Nat) : Except CompileFault Proto :=
  match readChunk source.data.toList level with
  | .error (.atLine text line) =>
      .error (.grammar (Proto.shownName name ++ s!":{line}: ".toUTF8 ++ ⟨text.toArray⟩))
  | .error .tooDeep => .error .depth
  | .ok p => .ok (p.withSource name)

/-- New cells for so many upvalues, of which the first one has a value. -/
def addCells (first : Value) : Nat → Array Nat → State → Array Nat × State
  | 0, cells, s => (cells, s)
  | n + 1, cells, s =>
      let (id, s) := s.addCell (if cells.isEmpty then first else .nil)
      addCells first n (cells.push id) s

/-- Make a function of a chunk, with a value for its first upvalue, which is its environment. -/
def load (p : Proto) (environment : Value) (s : State) : Value × State :=
  let (cells, s) := addCells environment p.upvalues.size #[] s
  s.addFunction (.closure p cells)

end Chunk

end LuaShell.Lua
