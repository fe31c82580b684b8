import LuaShell.Lua.Numeral

/-!
# Packed values

A format says how values lie one after the other in bytes: integers of so many bytes,
doubles, and strings with a fixed size, with a count before them, or with a zero after
them.  What a value is can be aligned to a power of two.
-/

namespace LuaShell.Lua

/-- What a format says about the next bytes. -/
inductive PackItem where
  | signed
  | unsigned
  /-- A double of four or of eight bytes. -/
  | single
  | double
  /-- A string of a fixed size. -/
  | chars
  /-- A string after a count. -/
  | counted
  /-- A string up to a zero. -/
  | zeroEnded
  | padding
  /-- Nothing but the alignment of what is named next. -/
  | alignment
  | nothing
  deriving DecidableEq

/-- Why a format is of no use. -/
inductive PackFault where
  | text (message : String)
  /-- The fault of an argument of the function. -/
  | argument (i : Nat) (message : String)

/-- What options further to the left in a format have set. -/
structure PackMode where
  isLittle : Bool
  maxAlign : Nat

namespace PackMode

/-- How a format begins. -/
def start : PackMode := ⟨true, 1⟩

/-- The greatest size of an integer. -/
def maxIntSize : Nat := 16

/-- The alignment that is enough for all kinds of values. -/
def nativeAlign : Nat := 8

/-- Numbers are not read on above this. -/
def numberLimit : Nat := 214748363

/-- The digits at the front, up to a limit, and what follows. -/
def number : Nat → List UInt8 → Nat × List UInt8
  | n, [] => (n, [])
  | n, b :: rest =>
      if isDigit b && n ≤ numberLimit then number (10 * n + (b.toNat - 48)) rest else (n, b :: rest)

/-- The number at the front of a format, if there is one. -/
def number? (bs : List UInt8) : Option Nat × List UInt8 :=
  match bs with
  | b :: _ => if isDigit b then let (n, rest) := number 0 bs; (some n, rest) else (none, bs)
  | [] => (none, [])

/-- The size of an integer at the front of a format. -/
def intSize (otherwise : Nat) (bs : List UInt8) : Except PackFault (Nat × List UInt8) :=
  let (n, rest) := number? bs
  let n := n.getD otherwise
  if 0 < n && n ≤ maxIntSize then .ok (n, rest)
  else .error (.text s!"integral size ({n}) out of limits [1,{maxIntSize}]")

/-- One option of a format. -/
def option (m : PackMode) (letter : UInt8) (rest : List UInt8) :
    Except PackFault (PackItem × Nat × PackMode × List UInt8) :=
  let sized (item : PackItem) (size : Nat) : Except PackFault _ := .ok (item, size, m, rest)
  let ofSize (item : PackItem) (otherwise : Nat) : Except PackFault _ := do
    let (size, rest) ← intSize otherwise rest
    return (item, size, m, rest)
  match Char.ofNat letter.toNat with
  | 'b' => sized .signed 1
  | 'B' => sized .unsigned 1
  | 'h' => sized .signed 2
  | 'H' => sized .unsigned 2
  | 'l' | 'j' => sized .signed 8
  | 'L' | 'J' | 'T' => sized .unsigned 8
  | 'f' => sized .single 4
  | 'n' | 'd' => sized .double 8
  | 'i' => ofSize .signed 4
  | 'I' => ofSize .unsigned 4
  | 's' => ofSize .counted 8
  | 'c' => match number? rest with
    | (some n, rest) => .ok (.chars, n, m, rest)
    | (none, _) => .error (.text "missing size for format option 'c'")
  | 'z' => sized .zeroEnded 0
  | 'x' => sized .padding 1
  | 'X' => sized .alignment 0
  | ' ' => sized .nothing 0
  | '<' | '=' => .ok (.nothing, 0, { m with isLittle := true }, rest)
  | '>' => .ok (.nothing, 0, { m with isLittle := false }, rest)
  | '!' => do
      let (size, rest) ← intSize nativeAlign rest
      return (.nothing, 0, { m with maxAlign := size }, rest)
  | c => .error (.text s!"invalid format option '{c}'")

/-- One item of a format and how many bytes stand before it, if so many have been passed. -/
def item (m : PackMode) (passed : Nat) (letter : UInt8) (rest : List UInt8) :
    Except PackFault (PackItem × Nat × Nat × PackMode × List UInt8) := do
  let (item, size, m, rest) ← m.option letter rest
  let (align, m, rest) ← if item = .alignment then match rest with
      | [] => .error (.argument 1 "invalid next option for option 'X'")
      | letter :: rest => do
          let (next, align, m, rest) ← m.option letter rest
          if next = .chars || align = 0 then
            .error (.argument 1 "invalid next option for option 'X'")
          else pure (align, m, rest)
    else pure (size, m, rest)
  if align ≤ 1 || item = .chars then return (item, size, 0, m, rest)
  let align := min align m.maxAlign
  if Nat.pow 2 (Nat.log2 align) ≠ align then
    .error (.argument 1 "format asks for alignment not power of 2")
  return (item, size, (align - passed % align) % align, m, rest)

/-- Bytes of an integer in the order of the mode, given from the lowest on. -/
def ordered (m : PackMode) (bs : List UInt8) : List UInt8 :=
  if m.isLittle then bs else bs.reverse

/-- The lowest bytes of a number. -/
def lowBytes : Nat → Nat → List UInt8
  | 0, _ => []
  | size + 1, n => UInt8.ofNat n :: lowBytes size (n / 256)

/-- The number that bytes from the lowest on are. -/
def natOfBytes : List UInt8 → Nat
  | [] => 0
  | b :: bs => b.toNat + 256 * natOfBytes bs

/-- An integer in so many bytes. -/
def packInt (m : PackMode) (size : Nat) (n : Int) : List UInt8 :=
  m.ordered (lowBytes size (n % Nat.pow 2 (8 * size)).toNat)

/-- The greatest number that so many bytes hold, and one. -/
def bound (size : Nat) : Nat := Nat.pow 2 (8 * size)

/-- The integer that bytes are; nothing if it is none of sixty-four bits. -/
def unpackInt? (m : PackMode) (isSigned : Bool) (bs : List UInt8) : Option Int64 :=
  let size := bs.length
  let n := natOfBytes (m.ordered bs)
  if size ≤ 8 then
    let isNegative := isSigned && bound size ≤ 2 * n
    some (Int64.ofInt (if isNegative then (n : Int) - bound size else n))
  else
    let low := n % bound 8
    let high := n / bound 8
    let isNegative := isSigned && bound 8 ≤ 2 * low
    if high = (if isNegative then bound (size - 8) - 1 else 0) then some (Int64.ofInt low)
    else none

/-- A double in four or in eight bytes. -/
def packFloat (m : PackMode) (size : Nat) (x : Float) : List UInt8 :=
  let bits := if size = 4 then x.toFloat32.toBits.toNat else x.toBits.toNat
  m.ordered (lowBytes size bits)

/-- The double that four or eight bytes are. -/
def unpackFloat (m : PackMode) (bs : List UInt8) : Float :=
  let n := natOfBytes (m.ordered bs)
  if bs.length = 4 then (Float32.ofBits (UInt32.ofNat n)).toFloat
  else Float.ofBits (UInt64.ofNat n)

end PackMode

end LuaShell.Lua
