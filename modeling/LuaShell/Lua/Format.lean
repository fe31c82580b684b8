import LuaShell.Lua.Numeral
import LuaShell.Number.Notation

/-!
# Formats

A format is a text with directions: a mark, flags, a width, a precision and a letter
for the notation.  `Direction.cut` finds the parts of one and `Direction.make?` puts
them together; the functions behind these write a value as a direction says.
-/

namespace LuaShell.Lua

/-- One direction of a format. -/
structure Direction where
  left : Bool
  plus : Bool
  blank : Bool
  alternate : Bool
  zero : Bool
  width : Nat
  precision : Option Nat
  letter : Char
  /-- The direction as it is written. -/
  text : String

namespace Direction

/-- The flags that a notation can have, and whether it can have a precision. -/
def legal? (letter : Char) : Option (List Char × Bool) :=
  match letter with
  | 'd' | 'i' => some (['-', '+', '0', ' '], true)
  | 'u' => some (['-', '0'], true)
  | 'o' | 'x' | 'X' => some (['-', '#', '0'], true)
  | 'a' | 'A' | 'f' | 'e' | 'E' | 'g' | 'G' => some (['-', '+', ' ', '#', '0'], true)
  | 'c' | 'p' => some (['-'], false)
  | 's' => some (['-'], true)
  | _ => none

/-- What can stand between the mark and the letter. -/
def isModifier (c : Char) : Bool :=
  "-+ #0123456789.".toList.contains c

/-- How long the modifiers can be. -/
def maxModifiers : Nat := 20

/-- At most two digits, and what follows. -/
def twoDigits (cs : List Char) : List Char × List Char :=
  let ds := (cs.take 2).takeWhile Char.isDigit
  (ds, cs.drop ds.length)

/-- The number that digits write. -/
def natOf (ds : List Char) : Nat :=
  ds.foldl (fun n d => 10 * n + (d.toNat - 48)) 0

/-- Check the modifiers and take them apart: flags, width and precision. -/
def parts? (flags : List Char) (hasPrecision : Bool) (cs : List Char) :
    Option (List Char × Nat × Option Nat) :=
  let given := cs.takeWhile flags.contains
  let rest := cs.dropWhile flags.contains
  if rest.head? = some '0' then none
  else
    let (width, rest) := twoDigits rest
    match rest with
    | '.' :: more =>
        if hasPrecision then
          let (precision, more) := twoDigits more
          if more.isEmpty then some (given, natOf width, some (natOf precision)) else none
        else none
    | [] => some (given, natOf width, none)
    | _ => none

/-- The modifiers and the letter at the front of a text, and what follows. -/
def cut (cs : List Char) : List Char × Option Char × List Char :=
  let modifiers := cs.takeWhile isModifier
  match cs.dropWhile isModifier with
  | c :: rest => (modifiers, some c, rest)
  | [] => (modifiers, none, [])

/-- The direction of some modifiers and a letter, if they go together. -/
def make? (modifiers : List Char) (letter : Char) : Option Direction := do
  let text := String.ofList ('%' :: modifiers ++ [letter])
  let (flags, hasPrecision) ← legal? letter
  let (given, width, precision) ← parts? flags hasPrecision modifiers
  return ⟨given.contains '-', given.contains '+', given.contains ' ', given.contains '#',
    given.contains '0', width, precision, letter, text⟩

/-! ## Writing -/

/-- Fill a text to the width. The sign and such stay in front of zeros. -/
def pad (d : Direction) (sign body : String) (zeros : Bool) : String :=
  let fill := d.width - (sign.length + body.length)
  let blanks := String.ofList (List.replicate fill ' ')
  if d.left then sign ++ body ++ blanks
  else if zeros then sign ++ Notation.zeros fill ++ body
  else blanks ++ sign ++ body

/-- The sign of a number. -/
def signOf (d : Direction) (negative : Bool) : String :=
  if negative then "-" else if d.plus then "+" else if d.blank then " " else ""

/-- An integer. -/
def writeInt (d : Direction) (n : Int64) : String :=
  let (sign, body) : String × String := match d.letter with
    | 'd' | 'i' => (d.signOf (n < 0), toString n.toInt.natAbs)
    | 'u' => ("", toString n.toUInt64.toNat)
    | 'o' => ("", String.ofList (Nat.toDigits 8 n.toUInt64.toNat))
    | letter =>
        let body := String.ofList (Nat.toDigits 16 n.toUInt64.toNat)
        let sign := if d.alternate && n != 0 then "0x" else ""
        if letter = 'X' then (sign.toUpper, body.toUpper) else (sign, body)
  let body := match d.precision with
    | some 0 => if n = 0 then "" else body
    | some p => Notation.padZero p body
    | none => body
  let body := if d.letter = 'o' && d.alternate && body.front ≠ '0' then "0" ++ body else body
  d.pad sign body (d.zero && d.precision.isNone)

/-- A double. -/
def writeFloat (d : Direction) (x : Float) : String :=
  let upper := d.letter.isUpper
  let cased (s : String) : String := if upper then s.toUpper else s
  match Binary64.ofFloat x with
  | .nan => d.pad (d.signOf (x.toBits >>> 63 = 1)) (cased "nan") false
  | .infinite negative => d.pad (d.signOf negative) (cased "inf") false
  | .finite negative m q =>
      let places := d.precision.getD 6
      let body := match d.letter.toLower with
        | 'f' => Notation.fixed places d.alternate m q
        | 'e' => Notation.scientific places d.alternate m q
        | 'a' => Notation.hexadecimal d.precision d.alternate m q
        | _ => Notation.general places d.alternate m q
      let body := cased body
      if d.letter.toLower = 'a' then
        d.pad (d.signOf negative ++ String.ofList (body.toList.take 2))
          (String.ofList (body.toList.drop 2)) d.zero
      else d.pad (d.signOf negative) body d.zero

/-- Bytes, cut to the precision. -/
def writeBytes (d : Direction) (b : ByteArray) : ByteArray :=
  let b := match d.precision with
    | some n => b.extract 0 n
    | none => b
  let blanks : ByteArray := ⟨Array.replicate (d.width - b.size) 32⟩
  if d.left then b ++ blanks else blanks ++ b

end Direction

/-! ## Literals -/

namespace Literal

/-- A byte of a string between quotes; `next` is what follows it. -/
def quoteByte (b : UInt8) (next : Option UInt8) : List UInt8 :=
  if b = 34 || b = 92 || b = 10 then [92, b]
  else if b < 32 || b = 127 then
    let digits := toString b.toNat
    let digits := if next.any isDigit then Notation.padZero 3 digits else digits
    92 :: digits.toUTF8.data.toList
  else [b]

/-- The bytes of a string between quotes. -/
def quoteBytes : List UInt8 → List UInt8
  | [] => []
  | b :: rest => quoteByte b rest.head? ++ quoteBytes rest

/-- A value as the script would write it, if it can be written. -/
def write? : Value → Option ByteArray
  | .nil => some "nil".toUTF8
  | .bool b => some (if b then "true" else "false").toUTF8
  | .int n => some (if n = Int64.minValue then "0x8000000000000000" else Value.intText n).toUTF8
  | .num x => some (match Binary64.ofFloat x with
      | .nan => "(0/0)"
      | .infinite negative => if negative then "-1e9999" else "1e9999"
      | .finite negative m q =>
          (if negative then "-" else "") ++ Notation.hexadecimal none false m q).toUTF8
  | .str b => some ⟨([34] ++ quoteBytes b.data.toList ++ [34]).toArray⟩
  | _ => none

end Literal

end LuaShell.Lua
