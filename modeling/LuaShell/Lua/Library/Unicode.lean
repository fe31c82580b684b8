import LuaShell.Lua.Act
import LuaShell.Lua.Token

/-!
# The library of encoded characters

Characters are encoded in one to six bytes; unless a caller is lax, only the
characters of Unicode count.
-/

namespace LuaShell.Lua.Library.Unicode

/-- Whether a byte goes on with a character. -/
def isContinuation (b : ByteArray) (i : Nat) : Bool :=
  match b[i]? with
  | some x => 128 ≤ x && x < 192
  | none => false

/-- How many bytes follow a first byte, and what it contributes. -/
def lead? (b : UInt8) : Option (Nat × Nat) :=
  let n := b.toNat
  if n < 0x80 then some (0, n)
  else if n < 0xC0 then none
  else if n < 0xE0 then some (1, n - 0xC0)
  else if n < 0xF0 then some (2, n - 0xE0)
  else if n < 0xF8 then some (3, n - 0xF0)
  else if n < 0xFC then some (4, n - 0xF8)
  else if n < 0xFE then some (5, n - 0xFC)
  else none

/-- The least character that needs so many bytes after the first. -/
def least : Nat → Nat
  | 0 => 0
  | 1 => 0x80
  | 2 => 0x800
  | 3 => 0x10000
  | 4 => 0x200000
  | _ => 0x4000000

/-- Whether a number is a character of Unicode. -/
def isCharacter (code : Nat) : Bool :=
  code ≤ 0x10FFFF && !(0xD800 ≤ code && code ≤ 0xDFFF)

/-- The character at a place, and where the next one begins. -/
def decode? (b : ByteArray) (i : Nat) (lax : Bool) : Option (Nat × Nat) := do
  let (count, first) ← lead? (← b[i]?)
  let follow ← (List.range count).mapM fun k => do
    let x ← b[i + k + 1]?
    if isContinuation b (i + k + 1) then some (x.toNat - 0x80) else none
  let code := follow.foldl (fun code x => 64 * code + x) first
  if code < least count || !(lax || isCharacter code) then none
  else some (code, i + count + 1)

/-- A position counted from the end if it is negative; zero if it lies before the first. -/
def position (n : Int64) (size : Nat) : Int :=
  let i := n.toInt
  if 0 ≤ i then i else if size < i.natAbs then 0 else size + i + 1

/-- A natural number as a value. -/
def ofNat (n : Nat) : Value := .int (Int64.ofNat n)

/-- `char`. -/
def char : Native := fun _ _ args => do
  let mut bytes : Array UInt8 := #[]
  for i in List.range args.length do
    let n := (← Act.int args (i + 1)).toInt
    if n < 0 || 0x7FFFFFFF < n then Act.failAt (i + 1) "value out of range"
    bytes := bytes ++ (Source.encodeUtf8 n.toNat).toArray
  return [.str ⟨bytes⟩]

/-- The characters from a place up to another. -/
def codesFrom (b : ByteArray) (lax : Bool) (stop : Nat) : Nat → Nat → Option (List Nat)
  | 0, _ => some []
  | n + 1, i =>
      if stop ≤ i then some []
      else match decode? b i lax with
        | none => none
        | some (code, next) => (codesFrom b lax stop n next).map (code :: ·)

/-- `codepoint`. -/
def codepoint : Native := fun _ _ args => do
  let b ← Act.bytes args 1
  let first := position (← Act.intOr args 2 1) b.size
  let last := position (← Act.intOr args 3 (Int64.ofInt first)) b.size
  if first < 1 then Act.failAt 2 "out of bounds"
  if b.size < last then Act.failAt 3 "out of bounds"
  match codesFrom b (Act.argument args 4).truthy last.toNat (b.size + 1) (first.toNat - 1) with
  | some codes => return codes.map ofNat
  | none => Act.fail "invalid UTF-8 code"

/-- How many characters begin between two places, or where one is malformed. -/
def count (b : ByteArray) (lax : Bool) (stop : Nat) : Nat → Nat → Nat → Nat ⊕ Nat
  | 0, _, n => .inl n
  | fuel + 1, i, n =>
      if stop ≤ i then .inl n
      else match decode? b i lax with
        | none => .inr (i + 1)
        | some (_, next) => count b lax stop fuel next (n + 1)

/-- `len`. -/
def len : Native := fun _ _ args => do
  let b ← Act.bytes args 1
  let first := position (← Act.intOr args 2 1) b.size
  let last := position (← Act.intOr args 3 (-1)) b.size
  if first < 1 || b.size + 1 < first then Act.failAt 2 "initial position out of bounds"
  if b.size < last then Act.failAt 3 "final position out of bounds"
  match count b (Act.argument args 4).truthy last.toNat (b.size + 1) (first.toNat - 1) 0 with
  | .inl n => return [ofNat n]
  | .inr i => return [.nil, ofNat i]

/-- The first place of a character at or before a place. -/
def backTo (b : ByteArray) : Nat → Nat
  | 0 => 0
  | i + 1 => if isContinuation b (i + 1) then backTo b i else i + 1

/-- The first place of a character at or after a place. -/
def forwardTo (b : ByteArray) : Nat → Nat → Nat
  | 0, i => i
  | n + 1, i => if isContinuation b i then forwardTo b n (i + 1) else i

/-- Go back by characters; what is left of the number, and the place. -/
def goBack (b : ByteArray) : Nat → Nat → Nat × Nat
  | 0, i => (0, i)
  | n + 1, 0 => (n + 1, 0)
  | n + 1, i + 1 => goBack b n (backTo b i)

/-- Go forward by characters; what is left of the number, and the place. -/
def goForward (b : ByteArray) : Nat → Nat → Nat × Nat
  | 0, i => (0, i)
  | n + 1, i => if b.size ≤ i then (n + 1, i) else goForward b n (forwardTo b b.size (i + 1))

/-- `offset`. -/
def offset : Native := fun _ _ args => do
  let b ← Act.bytes args 1
  let n := (← Act.int args 2).toInt
  let start : Int64 := if 0 ≤ n then 1 else Int64.ofNat (b.size + 1)
  let i := position (← Act.intOr args 3 start) b.size
  if i < 1 || b.size + 1 < i then Act.failAt 3 "position out of bounds"
  let i := i.toNat - 1
  if n = 0 then return [ofNat (backTo b i + 1)]
  if isContinuation b i then Act.fail "initial position is a continuation byte"
  let (left, i) := if n < 0 then goBack b n.natAbs i else goForward b (n.toNat - 1) i
  return [if left = 0 then ofNat (i + 1) else .nil]

/-- The iterator of `codes`. -/
def nextCode (lax : Bool) : Native := fun _ _ args => do
  let b ← Act.bytes args 1
  let i := (((Act.argument args 2).toInt?).getD 0).toUInt64.toNat
  let i := if i < b.size then forwardTo b b.size i else i
  if b.size ≤ i then return []
  match decode? b i lax with
  | some (code, next) =>
      if isContinuation b next then Act.fail "invalid UTF-8 code"
      else return [ofNat (i + 1), ofNat code]
  | none => Act.fail "invalid UTF-8 code"

/-- The names of the iterators. -/
def nextCodeName (lax : Bool) : String :=
  if lax then "utf8.codes iterator (lax)" else "utf8.codes iterator"

/-- `codes`. -/
def codes : Native := fun _ _ args => do
  let b ← Act.bytes args 1
  if isContinuation b 0 then Act.failAt 1 "invalid UTF-8 code"
  let f ← Act.update (·.addFunction (.native (nextCodeName (Act.argument args 2).truthy) #[]))
  return [f, .str b, .int 0]

/-- The functions and their names. -/
def functions : List (String × Native) :=
  [("char", char), ("codepoint", codepoint), ("codes", codes), ("len", len), ("offset", offset)]

/-- The pattern that matches one encoded character. -/
def charpattern : Value :=
  .str ⟨#[91, 0, 45, 0x7F, 0xC2, 45, 0xFD, 93, 91, 0x80, 45, 0xBF, 93, 42]⟩

end LuaShell.Lua.Library.Unicode
