import LuaShell.Number.Binary64

/-!
# Decimal digits of a double

Three ways to pick digits for `m · 2 ^ q`: the fewest that read back as the same
double, a given number of significant ones, and a given number of places.  All
three are computed in exact natural arithmetic.
-/

namespace LuaShell

/-- The number `digits · 10 ^ exponent`. -/
structure Decimal where
  digits : Nat
  exponent : Int
  deriving DecidableEq, Repr

namespace Decimal

/-- A fraction with positive denominator, the form in which magnitudes are compared. -/
structure Ratio where
  num : Nat
  den : Nat

namespace Ratio

/-- `m · 2 ^ q`. -/
def dyadic (m : Nat) (q : Int) : Ratio :=
  if 0 ≤ q then ⟨m * Nat.pow 2 q.toNat, 1⟩ else ⟨m, Nat.pow 2 (-q).toNat⟩

/-- `r / 10 ^ k`. -/
def shift (r : Ratio) (k : Int) : Ratio :=
  if 0 ≤ k then ⟨r.num, r.den * Nat.pow 10 k.toNat⟩
  else ⟨r.num * Nat.pow 10 (-k).toNat, r.den⟩

def lt (r s : Ratio) : Bool := r.num * s.den < s.num * r.den

def le (r s : Ratio) : Bool := r.num * s.den ≤ s.num * r.den

/-- The number of digits before the point of a positive ratio: the `k` with
`10 ^ (k - 1) ≤ r < 10 ^ k`. -/
def magnitude (r : Ratio) : Int :=
  let whole (n : Nat) : Int := (Nat.toDigits 10 n).length
  let guess := whole r.num - whole r.den
  if (r.shift guess).lt ⟨1, 1⟩ then guess else guess + 1

end Ratio

/-- Without zeros at the end; zero has the exponent zero. -/
def strip (fuel : Nat) (d : Decimal) : Decimal :=
  match fuel with
  | 0 => d
  | fuel + 1 =>
      if d.digits = 0 then ⟨0, 0⟩
      else if d.digits % 10 = 0 then strip fuel ⟨d.digits / 10, d.exponent + 1⟩
      else d

/-- The digits of a decimal, as text. -/
def digitText (d : Decimal) : List Char :=
  Nat.toDigits 10 d.digits

/-- The interval of numbers that round to `m · 2 ^ q`, and whether its ends do. -/
def interval (m : Nat) (q : Int) : Ratio × Ratio × Bool :=
  let below := if m = Binary64.leadBit && Binary64.minExponent < q then 1 else 2
  (Ratio.dyadic (4 * m - below) (q - 2), Ratio.dyadic (4 * m + 2) (q - 2), m % 2 = 0)

/-- Of the two neighbours of the value on the grid of `n` digits, the one inside the
interval that is nearer. -/
def onGrid? (m : Nat) (q : Int) (n : Nat) : Option Decimal :=
  let value := Ratio.dyadic m q
  let (lo, hi, closed) := interval m q
  let e := value.magnitude - n
  let scaled := value.shift e
  let d := scaled.num / scaled.den
  let inside (d : Nat) : Bool :=
    let lo := lo.shift e
    let hi := hi.shift e
    if closed then lo.le ⟨d, 1⟩ && Ratio.le ⟨d, 1⟩ hi else lo.lt ⟨d, 1⟩ && Ratio.lt ⟨d, 1⟩ hi
  let rest := 2 * (scaled.num % scaled.den)
  let upNearer := scaled.den < rest || (scaled.den = rest && d % 2 = 1)
  if inside d && inside (d + 1) then some ⟨if upNearer then d + 1 else d, e⟩
  else if inside d then some ⟨d, e⟩
  else if inside (d + 1) then some ⟨d + 1, e⟩
  else none

/-- The fewest digits that read back as `m · 2 ^ q`, the nearest of those. -/
def shortest (m : Nat) (q : Int) : Decimal :=
  if m = 0 then ⟨0, 0⟩
  else match (List.range 17).findSome? fun n => onGrid? m q (n + 1) with
    | some d => d.strip 20
    | none => ⟨m, q⟩

/-- `m · 2 ^ q` rounded to `n` significant digits, a tie to the even last digit.  The
answer has exactly `n` digits, unless the value is zero. -/
def significant (n : Nat) (m : Nat) (q : Int) : Decimal :=
  if m = 0 then ⟨0, 0⟩
  else
    let value := Ratio.dyadic m q
    let e := value.magnitude - n
    let scaled := value.shift e
    let d := Binary64.divNearest scaled.num scaled.den
    if d = Nat.pow 10 n then ⟨Nat.pow 10 (n - 1), e + 1⟩ else ⟨d, e⟩

/-- `m · 2 ^ q` as a whole number of units of `10 ^ (- places)`. -/
def places (n : Nat) (m : Nat) (q : Int) : Nat :=
  let scaled := (Ratio.dyadic m q).shift (-n)
  Binary64.divNearest scaled.num scaled.den

end Decimal

end LuaShell
