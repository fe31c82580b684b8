import LuaShell.Number.Binary64
import LuaShell.Text.Digit

/-!
# Reading numbers

Decimal text as an integer of a given range and as the nearest double.  The
double may be spelled `inf`, `infinity` or `nan` in any case; digits may stand on
either side of the point, and some digit has to.
-/

namespace LuaShell.Read

/-- A sign and what follows it. -/
def sign : List Char → Bool × List Char
  | '-' :: cs => (true, cs)
  | '+' :: cs => (false, cs)
  | cs => (false, cs)

/-- An integer of the range, written with an optional sign and digits. -/
def intWithin? (lo hi : Int) (cs : List Char) : Option Int :=
  let (negative, ds) := sign cs
  match Text.natOfDigits? ds with
  | none => none
  | some n =>
      let i : Int := if negative then -n else n
      if lo ≤ i && i ≤ hi then some i else none

/-- The parts of decimal text without a sign. -/
structure DecimalParts where
  whole : List Char
  places : List Char
  exponent : Int

/-- An exponent after its mark: an optional sign and at least one digit. -/
def exponent? (cs : List Char) : Option Int :=
  let (negative, ds) := sign cs
  (Text.natOfDigits? ds).map fun n => if negative then -n else n

/-- Digits, an optional point with more digits, and an optional exponent. -/
def decimalParts? (cs : List Char) : Option DecimalParts :=
  let whole := cs.takeWhile Char.isDigit
  let rest := cs.dropWhile Char.isDigit
  let (places, rest) := match rest with
    | '.' :: r => (r.takeWhile Char.isDigit, r.dropWhile Char.isDigit)
    | r => ([], r)
  if whole.isEmpty && places.isEmpty then none
  else match rest with
    | [] => some ⟨whole, places, 0⟩
    | c :: r =>
      if c = 'e' || c = 'E' then (exponent? r).map fun e => ⟨whole, places, e⟩
      else none

/-- The number that digits write. -/
def natOf (ds : List Char) : Nat :=
  (Text.natOfDigits? ds).getD 0

namespace DecimalParts

/-- The nearest double. -/
def toFloat (negative : Bool) (d : DecimalParts) : Float :=
  Binary64.nearestDecimal negative (natOf (d.whole ++ d.places)) (d.exponent - d.places.length)

end DecimalParts

/-- Infinity of a sign. -/
def infinity (negative : Bool) : Float :=
  Float.ofBits (UInt64.ofNat (Binary64.signBits negative + Binary64.topField * Binary64.leadBit))

/-- The double that a text spells. -/
def float? (cs : List Char) : Option Float :=
  let (negative, body) := sign cs
  let word := String.ofList (body.map Char.toLower)
  if word = "inf" || word = "infinity" then some (infinity negative)
  else if word = "nan" then some (0.0 / 0.0)
  else (decimalParts? body).map (·.toFloat negative)

end LuaShell.Read
