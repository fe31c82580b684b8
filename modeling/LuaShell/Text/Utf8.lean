/-!
# UTF-8

Reading byte strings as text.  `decode?` accepts exactly the well-formed byte
strings; on any other it says how much of the input was fine and how long the
ill-formed part is.  `decodeLossy` never fails: every maximal ill-formed part
becomes one replacement character.
-/

namespace LuaShell.Text

/-- Why a byte string is no UTF-8 text. -/
structure Utf8Error where
  /-- Number of bytes before the ill-formed part. -/
  validUpTo : Nat
  /-- Length of the ill-formed part, or `none` when the input ends inside a character. -/
  badLength : Option Nat
  deriving DecidableEq, Repr

namespace Utf8Error

/-- The wording of the two causes. -/
def message (e : Utf8Error) : String :=
  match e.badLength with
  | some n => s!"invalid utf-8 sequence of {n} bytes from index {e.validUpTo}"
  | none => s!"incomplete utf-8 byte sequence from index {e.validUpTo}"

end Utf8Error

/-- What stands at the head of a non-empty byte string. -/
inductive Lead where
  /-- A character that takes `size` bytes. -/
  | char (c : Char) (size : Nat)
  /-- `size` bytes that start no character. -/
  | bad (size : Nat)
  /-- The start of a character whose end is missing. -/
  | cut
  deriving DecidableEq, Repr

/-- Bytes `80` to `BF`, which only continue a character. -/
def isContinuation (b : UInt8) : Bool :=
  0x80 ≤ b && b ≤ 0xBF

/-- For the first byte of a longer character: the least and the greatest second byte, and
the length of the character.  The bounds exclude overlong forms and surrogates. -/
def secondByte? (b : UInt8) : Option (UInt8 × UInt8 × Nat) :=
  if b < 0xC2 then none
  else if b ≤ 0xDF then some (0x80, 0xBF, 2)
  else if b = 0xE0 then some (0xA0, 0xBF, 3)
  else if b = 0xED then some (0x80, 0x9F, 3)
  else if b ≤ 0xEF then some (0x80, 0xBF, 3)
  else if b = 0xF0 then some (0x90, 0xBF, 4)
  else if b ≤ 0xF3 then some (0x80, 0xBF, 4)
  else if b = 0xF4 then some (0x80, 0x8F, 4)
  else none

/-- The six payload bits of a continuation byte. -/
def low (b : UInt8) : Nat := b.toNat % 64

/-- Classify the head of `b :: rest`. -/
def Lead.of (b : UInt8) (rest : List UInt8) : Lead :=
  if b < 0x80 then .char (Char.ofNat b.toNat) 1
  else match secondByte? b with
    | none => .bad 1
    | some (lo, hi, n) =>
      match rest with
      | [] => .cut
      | b₂ :: rest₂ =>
        if b₂ < lo || hi < b₂ then .bad 1
        else if n = 2 then .char (Char.ofNat (b.toNat % 32 * 64 + low b₂)) 2
        else match rest₂ with
          | [] => .cut
          | b₃ :: rest₃ =>
            if !isContinuation b₃ then .bad 2
            else if n = 3 then
              .char (Char.ofNat ((b.toNat % 16 * 64 + low b₂) * 64 + low b₃)) 3
            else match rest₃ with
              | [] => .cut
              | b₄ :: _ =>
                if !isContinuation b₄ then .bad 3
                else .char (Char.ofNat
                  (((b.toNat % 8 * 64 + low b₂) * 64 + low b₃) * 64 + low b₄)) 4

/-- The character that stands for an ill-formed part. -/
def replacement : Char := Char.ofNat 0xFFFD

/-- What is left after a character is shorter than what began with it. -/
theorem length_drop_lt (b : UInt8) (rest : List UInt8) (n : Nat) :
    (rest.drop n).length < (b :: rest).length := by
  rw [List.length_drop]
  exact Nat.lt_succ_of_le (Nat.sub_le ..)

/-- Read bytes as text, each ill-formed part as one replacement character. -/
def decodeLossy : List UInt8 → List Char
  | [] => []
  | b :: rest =>
      match Lead.of b rest with
      | .char c n => c :: decodeLossy (rest.drop (n - 1))
      | .bad n => replacement :: decodeLossy (rest.drop (n - 1))
      | .cut => [replacement]
termination_by bs => bs.length
decreasing_by all_goals exact length_drop_lt ..

/-- Read bytes as text; `done` bytes have been read before them. -/
def decodeFrom (done : Nat) : List UInt8 → Except Utf8Error (List Char)
  | [] => .ok []
  | b :: rest =>
      match Lead.of b rest with
      | .char c n =>
          match decodeFrom (done + n) (rest.drop (n - 1)) with
          | .ok cs => .ok (c :: cs)
          | .error e => .error e
      | .bad n => .error ⟨done, some n⟩
      | .cut => .error ⟨done, none⟩
termination_by bs => bs.length
decreasing_by exact length_drop_lt ..

/-- Read well-formed bytes as text. -/
def decode? (bytes : List UInt8) : Except Utf8Error (List Char) :=
  decodeFrom 0 bytes

/-- The text of well-formed bytes. -/
def ofBytes? (bytes : ByteArray) : Except Utf8Error String :=
  (decode? bytes.data.toList).map String.ofList

/-- The text of any bytes. -/
def ofBytesLossy (bytes : ByteArray) : String :=
  String.ofList (decodeLossy bytes.data.toList)

/-- The bytes of a text. -/
def toBytes (text : String) : List UInt8 :=
  text.toUTF8.data.toList

end LuaShell.Text
