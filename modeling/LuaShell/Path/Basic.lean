import LuaShell.Text.Utf8

/-!
# Paths

A path is a text of bytes.  Its components are what stands between the slashes:
empty parts and parts that are a single dot say nothing, but for a dot that
begins a relative path.  `join` and `pop` work on the text, as the shell keeps
and prints paths exactly as they were put together.
-/

namespace LuaShell

/-- The name of a directory entry: any bytes but a slash and a zero. -/
abbrev Name := List UInt8

/-- A path as text. -/
structure Path where
  bytes : List UInt8
  deriving DecidableEq

/-- One step of a path. -/
inductive Component where
  | root
  | current
  | parent
  | name (n : Name)
  deriving DecidableEq

namespace Path

/-- The separator. -/
def slash : UInt8 := 47

/-- A full stop. -/
def dot : UInt8 := 46

/-- The path that a text spells. -/
def ofString (s : String) : Path := ⟨Text.toBytes s⟩

instance : Inhabited Path := ⟨⟨[]⟩⟩

/-- The empty path. -/
def empty : Path := ⟨[]⟩

/-- The root directory. -/
def rootDirectory : Path := ⟨[slash]⟩

/-- The path as it is shown; ill-formed bytes become replacement characters. -/
def display (p : Path) : String :=
  String.ofList (Text.decodeLossy p.bytes)

/-- Absolute paths begin with a slash. -/
def isAbsolute (p : Path) : Bool :=
  p.bytes.head? = some slash

/-- What stands between the slashes of a text; one part more than there are slashes. -/
def parts : List UInt8 → List Name
  | [] => [[]]
  | b :: bs =>
      if b = slash then [] :: parts bs
      else match parts bs with
        | [] => [[b]]
        | p :: ps => (b :: p) :: ps

/-- Parts put together again. -/
def unparts : List Name → List UInt8
  | [] => []
  | [p] => p
  | p :: ps => p ++ slash :: unparts ps

/-- A part that says nothing. -/
def isSilent (part : Name) : Bool :=
  part = [] || part = [dot]

/-- The component that a part is, if it says anything. -/
def component? (part : Name) : Option Component :=
  if isSilent part then none
  else if part = [dot, dot] then some .parent
  else some (.name part)

/-- A relative path that begins with the part `.`. -/
def leadsWithDot (p : Path) : Bool :=
  match p.bytes with
  | b :: bs => b = dot && (bs = [] || bs.head? = some slash)
  | [] => false

/-- The steps of a path, in order. -/
def components (p : Path) : List Component :=
  let body := (parts p.bytes).filterMap component?
  if p.isAbsolute then .root :: body
  else if p.leadsWithDot then .current :: body
  else body

/-- `p`, then `q` from there.  An absolute `q` replaces `p`. -/
def join (p q : Path) : Path :=
  if q.isAbsolute then q
  else if p.bytes = [] || p.bytes.getLast? = some slash then ⟨p.bytes ++ q.bytes⟩
  else ⟨p.bytes ++ slash :: q.bytes⟩

/-- `p`, then the entry `n` from there. -/
def push (p : Path) (n : Name) : Path :=
  p.join ⟨n⟩

/-- The beginning of a path that never goes away, and the parts after it. -/
def split (p : Path) : List UInt8 × List Name :=
  if p.isAbsolute then ([slash], parts p.bytes.tail)
  else if p.leadsWithDot then ([dot], if p.bytes.tail = [] then [] else parts p.bytes.tail)
  else ([], parts p.bytes)

/-- Without the silent parts at the end. -/
def dropSilent (ps : List Name) : List Name :=
  (ps.reverse.dropWhile isSilent).reverse

/-- The path without its last component; none for the root and the empty path. -/
def parent (p : Path) : Option Path :=
  let (head, ps) := p.split
  match dropSilent ps with
  | [] => if head = [dot] then some empty else none
  | last :: rest => some ⟨head ++ unparts (dropSilent (last :: rest).dropLast)⟩

/-- Without the last component, if there is one. -/
def pop (p : Path) : Path :=
  p.parent.getD p

/-- Component by component, `q` is a beginning of `p`. -/
def startsWith (p q : Path) : Bool :=
  q.components.isPrefixOf p.components

/-! ## Laws -/

theorem parts_ne_nil (bs : List UInt8) : parts bs ≠ [] := by
  cases bs with
  | nil => simp [parts]
  | cons b bs =>
      simp only [parts]
      split
      · simp
      · split <;> simp

theorem unparts_parts (bs : List UInt8) : unparts (parts bs) = bs := by
  induction bs with
  | nil => rfl
  | cons b bs ih =>
      simp only [parts]
      split
      · next h =>
          cases hp : parts bs with
          | nil => exact absurd hp (parts_ne_nil bs)
          | cons p ps => rw [unparts, ← hp, ih, h] <;> simp
      · cases hp : parts bs with
        | nil => exact absurd hp (parts_ne_nil bs)
        | cons p ps =>
            rw [hp] at ih
            cases ps with
            | nil => simpa [unparts] using ih
            | cons p' ps => simpa [unparts] using ih

theorem join_of_isAbsolute (p : Path) {q : Path} (h : q.isAbsolute = true) : p.join q = q := by
  simp [join, h]

end Path

end LuaShell
