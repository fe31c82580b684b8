import LuaShell.Number.Decimal

/-!
# Written numbers

The notations for doubles: positional without any exponent, fixed places,
scientific, general (the shorter of those two, by the size of the exponent) and
hexadecimal.  The sign is written apart, so that padding can go between.
-/

namespace LuaShell.Notation

/-- Text of `n` zeros. -/
def zeros (n : Nat) : String :=
  String.ofList (List.replicate n '0')

/-- Left-pad with zeros to a width. -/
def padZero (width : Nat) (s : String) : String :=
  zeros (width - s.length) ++ s

/-- The digits of `digits · 10 ^ exponent` with the point in place, no exponent, and no
point when nothing follows it. -/
def positionalDecimal (d : Decimal) : String :=
  let ds := d.digitText
  if 0 ≤ d.exponent then String.ofList ds ++ zeros d.exponent.toNat
  else
    let places := (-d.exponent).toNat
    if places < ds.length then
      String.ofList (ds.take (ds.length - places)) ++ "." ++
        String.ofList (ds.drop (ds.length - places))
    else "0." ++ zeros (places - ds.length) ++ String.ofList ds

/-- A double in full: the fewest digits that read back, never an exponent. -/
def positional (x : Float) : String :=
  match Binary64.ofFloat x with
  | .nan => "NaN"
  | .infinite negative => if negative then "-inf" else "inf"
  | .finite negative m q =>
      (if negative then "-" else "") ++ positionalDecimal (Decimal.shortest m q)

/-- `n` places after the point; the point stays away when there is none, unless it is
forced. -/
def fixed (n : Nat) (forcePoint : Bool) (m : Nat) (q : Int) : String :=
  let units := padZero (n + 1) (String.ofList (Nat.toDigits 10 (Decimal.places n m q)))
  if n = 0 then units ++ (if forcePoint then "." else "")
  else
    let cs := units.toList
    String.ofList (cs.take (cs.length - n)) ++ "." ++ String.ofList (cs.drop (cs.length - n))

/-- An exponent: sign and at least two digits. -/
def exponentText (e : Int) : String :=
  (if e < 0 then "-" else "+") ++ padZero 2 (String.ofList (Nat.toDigits 10 e.natAbs))

/-- The digits and the exponent of the scientific notation with `n` places. -/
def scientificParts (n : Nat) (m : Nat) (q : Int) : List Char × Int :=
  let d := Decimal.significant (n + 1) m q
  if d.digits = 0 then (List.replicate (n + 1) '0', 0)
  else (d.digitText, d.exponent + n)

/-- One digit before the point, `n` after it, and an exponent. -/
def scientific (n : Nat) (forcePoint : Bool) (m : Nat) (q : Int) : String :=
  let (ds, e) := scientificParts n m q
  let point := if n = 0 then (if forcePoint then "." else "") else "."
  String.ofList (ds.take 1) ++ point ++ String.ofList (ds.drop 1) ++ "e" ++ exponentText e

/-- Without the zeros that end the places, and without a point that ends the text. -/
def dropPlaces (s : String) : String :=
  if s.contains '.' then
    let cs := s.toList.reverse.dropWhile (· = '0')
    String.ofList (match cs with
      | '.' :: rest => rest.reverse
      | _ => cs.reverse)
  else s

/-- `n` significant digits, scientific if the exponent is below `-4` or not below `n`. -/
def general (n : Nat) (keepZeros : Bool) (m : Nat) (q : Int) : String :=
  let n := if n = 0 then 1 else n
  let (_, e) := scientificParts (n - 1) m q
  if e < -4 || (n : Int) ≤ e then
    let (ds, e) := scientificParts (n - 1) m q
    let tail := String.ofList (ds.drop 1)
    let mantissa := String.ofList (ds.take 1) ++ (if n = 1 && !keepZeros then "" else ".") ++ tail
    (if keepZeros then mantissa else dropPlaces mantissa) ++ "e" ++ exponentText e
  else
    let text := fixed (n - 1 - e).toNat keepZeros m q
    if keepZeros then text else dropPlaces text

/-- Hexadecimal digits after the point, a power of two as exponent.  Without a precision
all thirteen places are there but for zeros at the end. -/
def hexadecimal (precision : Option Nat) (forcePoint : Bool) (m : Nat) (q : Int) : String :=
  let hex (width n : Nat) : String := padZero width (String.ofList (Nat.toDigits 16 n))
  if m = 0 then
    let n := precision.getD 0
    "0x0" ++ (if n = 0 && !forcePoint then "" else ".") ++ zeros n ++ "p+0"
  else
    let subnormal := m < Binary64.leadBit
    let e : Int := if subnormal then -1022 else q + 52
    let n := precision.getD 13
    let units := if n < 13 then Binary64.divNearest m (Nat.pow 16 (13 - n))
      else m * Nat.pow 16 (n - 13)
    let whole := units / Nat.pow 16 n
    let places := if n = 0 then "" else hex n (units % Nat.pow 16 n)
    let places := match precision with
      | some _ => places
      | none => String.ofList (places.toList.reverse.dropWhile (· = '0')).reverse
    "0x" ++ hex 1 whole ++ (if places.isEmpty && !forcePoint then "" else ".") ++ places ++ "p"
      ++ (if e < 0 then "-" else "+") ++ String.ofList (Nat.toDigits 10 e.natAbs)

end LuaShell.Notation
