/-!
# Binary floating point numbers

A double is read off its sixty-four bits: a sign and a natural number times a
power of two, an infinity, or no number at all.  `ofRatio` goes the other way and
rounds a quotient of natural numbers to the nearest double, a tie to the one with
the even last bit.  Everything that has to be exact about a double is computed
from this view; only arithmetic uses the machine's operations.
-/

namespace LuaShell

/-- What the bits of a double say. -/
inductive Binary64 where
  | nan
  | infinite (negative : Bool)
  /-- The number `± m · 2 ^ q`. -/
  | finite (negative : Bool) (m : Nat) (q : Int)
  deriving DecidableEq, Repr

namespace Binary64

/-- The exponent of the least positive double. -/
def minExponent : Int := -1074

/-- The bit of the sign, `2 ^ 63`. -/
def signBit : Nat := 0x8000000000000000

/-- The bit that leads the digits of a normal double and is not written, `2 ^ 52`. -/
def leadBit : Nat := 0x10000000000000

/-- The exponent field of what is infinite or no number. -/
def topField : Nat := 2047

/-- Read the three fields of a double. -/
def ofBits (bits : UInt64) : Binary64 :=
  let n := bits.toNat
  let negative := signBit ≤ n
  let exponent : Nat := n / leadBit % 2048
  let fraction := n % leadBit
  if exponent = topField then
    if fraction = 0 then .infinite negative else .nan
  else if exponent = 0 then .finite negative fraction minExponent
  else .finite negative (leadBit + fraction) ((exponent : Int) - 1075)

/-- The view of a double. -/
def ofFloat (x : Float) : Binary64 :=
  ofBits x.toBits

/-- The quotient rounded to the nearest natural number, a tie to the even one. -/
def divNearest (num den : Nat) : Nat :=
  let d := num / den
  let twice := 2 * (num % den)
  if den < twice || (den = twice && d % 2 = 1) then d + 1 else d

/-- `num · 2 ^ k / den`, rounded. -/
def scaledNearest (num den : Nat) (k : Int) : Nat :=
  if 0 ≤ k then divNearest (num * Nat.pow 2 k.toNat) den
  else divNearest num (den * Nat.pow 2 (-k).toNat)

/-- The bits of the sign. -/
def signBits (negative : Bool) : Nat :=
  if negative then signBit else 0

/-- The bits of the double nearest to `± num / den`. -/
def ofRatio (negative : Bool) (num den : Nat) : UInt64 :=
  if num = 0 || den = 0 then UInt64.ofNat (signBits negative)
  else
    let guess : Int := (Nat.log2 num : Int) - Nat.log2 den - 52
    let fits := fun (e : Int) => scaledNearest num den (-e) < 2 * leadBit
    let e := if fits (guess - 1) then guess - 1 else if fits guess then guess else guess + 1
    let e := if e < minExponent then minExponent else e
    let m := scaledNearest num den (-e)
    let (m, e) := if m = 2 * leadBit then (leadBit, e + 1) else (m, e)
    if 971 < e then UInt64.ofNat (signBits negative + topField * leadBit)
    else if m < leadBit then UInt64.ofNat (signBits negative + m)
    else UInt64.ofNat (signBits negative + (e + 1075).toNat * leadBit + (m - leadBit))

/-- The double nearest to `± num / den`. -/
def nearest (negative : Bool) (num den : Nat) : Float :=
  Float.ofBits (ofRatio negative num den)

/-- The double nearest to `± digits · 10 ^ exponent`.  The bounds are those beyond which
the answer is zero or infinite, whatever the digits. -/
def nearestDecimal (negative : Bool) (digits : Nat) (exponent : Int) : Float :=
  let size : Int := (Nat.toDigits 10 digits).length
  if digits = 0 || size + exponent < -400 then Float.ofBits (UInt64.ofNat (signBits negative))
  else if 400 < size + exponent then
    Float.ofBits (UInt64.ofNat (signBits negative + topField * leadBit))
  else if 0 ≤ exponent then nearest negative (digits * Nat.pow 10 exponent.toNat) 1
  else nearest negative digits (Nat.pow 10 (-exponent).toNat)

/-- Whether the view is of a number, and of which sign. -/
def isNegative : Binary64 → Bool
  | .nan => false
  | .infinite negative => negative
  | .finite negative _ _ => negative

/-- The integer that a double is, if it is one. -/
def exactInt? : Binary64 → Option Int
  | .finite negative m q =>
      let sign (n : Nat) : Int := if negative then -n else n
      if 0 ≤ q then some (sign (m * Nat.pow 2 q.toNat))
      else if m % Nat.pow 2 (-q).toNat = 0 then some (sign (m / Nat.pow 2 (-q).toNat))
      else none
  | _ => none

/-- The integral part, towards zero, of a double that is finite. -/
def truncated? : Binary64 → Option Int
  | .finite negative m q =>
      let n := if 0 ≤ q then m * Nat.pow 2 q.toNat else m / Nat.pow 2 (-q).toNat
      some (if negative then -n else n)
  | _ => none

/-- The integer of `lo` to `hi` that is nearest to the integral part; zero for no number. -/
def clamped (lo hi : Int) : Binary64 → Int
  | .nan => 0
  | .infinite negative => if negative then lo else hi
  | x@(.finite ..) =>
      match x.truncated? with
      | some n => if n < lo then lo else if hi < n then hi else n
      | none => 0

end Binary64

end LuaShell
