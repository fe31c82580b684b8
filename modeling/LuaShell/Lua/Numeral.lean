import LuaShell.Lua.Value
import LuaShell.Number.Read

/-!
# Numerals of Lua

Text as a number.  A numeral without point and exponent is an integer; a decimal one
that needs more than sixty-four bits is a double instead, a hexadecimal one wraps.
Blanks around a numeral do not matter.
-/

namespace LuaShell.Lua

/-- The blanks of ASCII. -/
def isSpace (b : UInt8) : Bool :=
  b = 32 || (9 ≤ b && b ≤ 13)

def isDigit (b : UInt8) : Bool :=
  48 ≤ b && b ≤ 57

def isHexDigit (b : UInt8) : Bool :=
  isDigit b || (65 ≤ b && b ≤ 70) || (97 ≤ b && b ≤ 102)

def isUpper (b : UInt8) : Bool :=
  65 ≤ b && b ≤ 90

def isLower (b : UInt8) : Bool :=
  97 ≤ b && b ≤ 122

/-- A letter of ASCII. -/
def isLetter (b : UInt8) : Bool :=
  isUpper b || isLower b

/-- A letter or a low line, which begin names. -/
def isNameStart (b : UInt8) : Bool :=
  isLetter b || b = 95

/-- What names go on with. -/
def isNamePart (b : UInt8) : Bool :=
  isNameStart b || isDigit b

/-- The value of a digit to any base up to thirty-six. -/
def digitValue (b : UInt8) : Nat :=
  if isDigit b then b.toNat - 48
  else if isUpper b then b.toNat - 55
  else if isLower b then b.toNat - 87
  else 99

/-- The number that digits write. -/
def natOfDigits (base : Nat) (ds : List UInt8) : Nat :=
  ds.foldl (fun n d => base * n + digitValue d) 0

namespace Numeral

/-- Without the blanks at both ends. -/
def trim (bs : List UInt8) : List UInt8 :=
  ((bs.dropWhile isSpace).reverse.dropWhile isSpace).reverse

/-- A sign and what follows it. -/
def sign : List UInt8 → Bool × List UInt8
  | 45 :: bs => (true, bs)
  | 43 :: bs => (false, bs)
  | bs => (false, bs)

/-- What follows the mark of a hexadecimal numeral. -/
def hexBody? : List UInt8 → Option (List UInt8)
  | 48 :: x :: bs => if x = 120 || x = 88 then some bs else none
  | _ => none

/-- A natural number with a sign, cut to sixty-four bits. -/
def wrap (negative : Bool) (n : Nat) : Int64 :=
  if negative then -(Int64.ofNat n) else Int64.ofNat n

/-- An integer. -/
def int? (bs : List UInt8) : Option Int64 :=
  let (negative, body) := sign bs
  match hexBody? body with
  | some ds =>
      if ds.isEmpty || !ds.all isHexDigit then none
      else some (wrap negative (natOfDigits 16 ds))
  | none =>
      if body.isEmpty || !body.all isDigit then none
      else
        let n := natOfDigits 10 body
        if n < Binary64.signBit || (negative && n = Binary64.signBit) then some (wrap negative n) else none

/-- An exponent after its mark: an optional sign and at least one digit. -/
def exponent? (bs : List UInt8) : Option Int :=
  let (negative, ds) := sign bs
  if ds.isEmpty || !ds.all isDigit then none
  else
    let n : Int := natOfDigits 10 ds
    some (if negative then -n else n)

/-- Digits, perhaps with a point among them, and what follows. -/
def mantissa (isMember : UInt8 → Bool) (bs : List UInt8) :
    List UInt8 × List UInt8 × List UInt8 :=
  let whole := bs.takeWhile isMember
  match bs.dropWhile isMember with
  | 46 :: rest => (whole, rest.takeWhile isMember, rest.dropWhile isMember)
  | rest => (whole, [], rest)

/-- The double nearest to a hexadecimal mantissa times a power of two. -/
def hexFloat (negative : Bool) (n : Nat) (e : Int) : Float :=
  let size : Int := Nat.log2 (n + 1)
  if n = 0 || size + e < -1200 then Float.ofBits (UInt64.ofNat (Binary64.signBits negative))
  else if 1200 < size + e then Read.infinity negative
  else if 0 ≤ e then Binary64.nearest negative (n * Nat.pow 2 e.toNat) 1
  else Binary64.nearest negative n (Nat.pow 2 (-e).toNat)

/-- A double. -/
def float? (bs : List UInt8) : Option Float :=
  let (negative, body) := sign bs
  match hexBody? body with
  | some body =>
      let (whole, places, rest) := mantissa isHexDigit body
      if whole.isEmpty && places.isEmpty then none
      else
        let n := natOfDigits 16 (whole ++ places)
        let shift : Int := 4 * places.length
        match rest with
        | [] => some (hexFloat negative n (-shift))
        | p :: rest =>
            if p = 112 || p = 80 then (exponent? rest).map fun e => hexFloat negative n (e - shift)
            else none
  | none =>
      let (whole, places, rest) := mantissa isDigit body
      if whole.isEmpty && places.isEmpty then none
      else
        let n := natOfDigits 10 (whole ++ places)
        let shift : Int := places.length
        match rest with
        | [] => some (Binary64.nearestDecimal negative n (-shift))
        | p :: rest =>
            if p = 101 || p = 69 then
              (exponent? rest).map fun e => Binary64.nearestDecimal negative n (e - shift)
            else none

/-- The number that a text is. -/
def read? (bytes : List UInt8) : Option Value :=
  let body := trim bytes
  match int? body with
  | some n => some (.int n)
  | none => (float? body).map .num

end Numeral

namespace Value

/-- The number that a value is or, being a string, writes. -/
def asNumber? : Value → Option Value
  | .int n => some (.int n)
  | .num x => some (.num x)
  | .str s => Numeral.read? s.data.toList
  | _ => none

/-- The double of a number. -/
def toFloat? : Value → Option Float
  | .int n => some (floatOfInt n)
  | .num x => some x
  | _ => none

/-- The integer that a number is, without any rounding. -/
def toInt? : Value → Option Int64
  | .int n => some n
  | .num x => intOfFloat? x
  | _ => none

/-- The double of a number, or of the number that a string writes. -/
def asFloat? (v : Value) : Option Float :=
  v.asNumber?.bind toFloat?

/-- The integer that a number is or a string writes. -/
def asInt? (v : Value) : Option Int64 :=
  v.asNumber?.bind toInt?

/-- The bytes of a string, or of a number as text. -/
def asBytes? : Value → Option ByteArray
  | .str s => some s
  | .int n => some (intText n).toUTF8
  | .num x => some (floatText x).toUTF8
  | _ => none

end Value

end LuaShell.Lua
