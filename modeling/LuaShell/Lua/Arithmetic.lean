import LuaShell.Lua.Numeral
import LuaShell.Lua.Operator

/-!
# Arithmetic of Lua

Integers wrap around at sixty-four bits; division with `//` and its rest round
towards minus infinity.  As soon as one operand is a double, and always for `/` and
`^`, both are.  Bits are those of integers.
-/

namespace LuaShell.Lua

/-- Why an operation has no answer. -/
inductive ArithmeticFault where
  | divisionByZero
  | remainderByZero
  /-- An operand is no number. -/
  | operand
  /-- A double that is no integer. -/
  | noInteger
  deriving DecidableEq

namespace Arithmetic

/-- The quotient, rounded down. -/
def floorDiv (a b : Int64) : Int64 :=
  Int64.ofInt (Int.fdiv a.toInt b.toInt)

/-- The rest of that quotient; it has the sign of the divisor. -/
def floorMod (a b : Int64) : Int64 :=
  Int64.ofInt (Int.fmod a.toInt b.toInt)

/-- What is left of a double after taking away a double as often as it goes; the sign is that
of the first. -/
def remainder (a b : Float) : Float :=
  match Binary64.ofFloat a, Binary64.ofFloat b with
  | .finite negative m q, .finite _ n p =>
      if n = 0 then 0.0 / 0.0
      else
        let e := min q p
        let r := (m * Nat.pow 2 (q - e).toNat) % (n * Nat.pow 2 (p - e).toNat)
        if 0 ≤ e then Binary64.nearest negative (r * Nat.pow 2 e.toNat) 1
        else Binary64.nearest negative r (Nat.pow 2 (-e).toNat)
  | .finite .., .infinite _ => a
  | _, _ => 0.0 / 0.0

/-- The rest of a quotient of doubles, rounded down. -/
def floatMod (a b : Float) : Float :=
  let r := remainder a b
  if r != 0.0 && (r < 0.0) != (b < 0.0) then r + b else r

/-- Shift to the left, or to the right for negative amounts; zeros come in. -/
def shiftLeft (a : Int64) (amount : Int) : Int64 :=
  let bits := a.toUInt64.toNat
  if 64 ≤ amount || amount ≤ -64 then 0
  else if 0 ≤ amount then (UInt64.ofNat (bits * Nat.pow 2 amount.toNat)).toInt64
  else (UInt64.ofNat (bits / Nat.pow 2 (-amount).toNat)).toInt64

/-- An operation on integers, if it has one of its own. -/
def onInts (op : ArithOp) (a b : Int64) : Option (Except ArithmeticFault Value) :=
  match op with
  | .add => some (.ok (.int (a + b)))
  | .sub => some (.ok (.int (a - b)))
  | .mul => some (.ok (.int (a * b)))
  | .idiv => some (if b = 0 then .error .divisionByZero else .ok (.int (floorDiv a b)))
  | .mod => some (if b = 0 then .error .remainderByZero else .ok (.int (floorMod a b)))
  | .band => some (.ok (.int (a &&& b)))
  | .bor => some (.ok (.int (a ||| b)))
  | .bxor => some (.ok (.int (a ^^^ b)))
  | .shl => some (.ok (.int (shiftLeft a b.toInt)))
  | .shr => some (.ok (.int (shiftLeft a (-b.toInt))))
  | _ => none

/-- An operation on doubles. -/
def onFloats (op : ArithOp) (a b : Float) : Float :=
  match op with
  | .add => a + b
  | .sub => a - b
  | .mul => a * b
  | .div => a / b
  | .idiv => (a / b).floor
  | .mod => floatMod a b
  | .pow => if b == 2.0 then a * a else a.pow b
  | _ => 0.0

/-- An operation on two values as doubles. -/
def viaFloats (op : ArithOp) (a b : Value) : Except ArithmeticFault Value :=
  match a.toFloat?, b.toFloat? with
  | some x, some y => .ok (.num (onFloats op x y))
  | _, _ => .error .operand

/-- An operation on two values. -/
def binary (op : ArithOp) (a b : Value) : Except ArithmeticFault Value :=
  if op.isBitwise then
    match a, b with
    | .int m, .int n => (onInts op m n).getD (.error .operand)
    | a, b => match a.toFloat?, b.toFloat? with
      | some _, some _ => match a.toInt?, b.toInt? with
        | some m, some n => (onInts op m n).getD (.error .operand)
        | _, _ => .error .noInteger
      | _, _ => .error .operand
  else
    match a, b with
    | .int m, .int n => match onInts op m n with
      | some answer => answer
      | none => viaFloats op a b
    | _, _ => viaFloats op a b

/-- The opposite number. -/
def negate : Value → Except ArithmeticFault Value
  | .int n => .ok (.int (-n))
  | .num x => .ok (.num (-x))
  | _ => .error .operand

/-- All bits turned round. -/
def complement : Value → Except ArithmeticFault Value
  | .int n => .ok (.int (~~~n))
  | .num x => match Value.intOfFloat? x with
    | some n => .ok (.int (~~~n))
    | none => .error .noInteger
  | _ => .error .operand

/-- Compare byte by byte. -/
def bytesLess (a b : ByteArray) : Bool :=
  lexLess a.data.toList b.data.toList
where
  lexLess : List UInt8 → List UInt8 → Bool
    | _, [] => false
    | [], _ :: _ => true
    | x :: xs, y :: ys => x < y || (x = y && lexLess xs ys)

/-- Whether a number or string goes before another, or does not go after it. Others have no
order of their own. -/
def less? (orEqual : Bool) (a b : Value) : Option Bool :=
  let fits (o : Option Ordering) : Bool := match o with
    | some .lt => true
    | some .eq => orEqual
    | _ => false
  match a, b with
  | .int m, .int n => some (if orEqual then m ≤ n else m < n)
  | .num x, .num y => some (if orEqual then x ≤ y else x < y)
  | .int m, .num y => some (fits (Value.compareIntFloat m y))
  | .num x, .int n => some (fits ((Value.compareIntFloat n x).map Ordering.swap))
  | .str s, .str t => some (if orEqual then !bytesLess t s else bytesLess s t)
  | _, _ => none

end Arithmetic

end LuaShell.Lua
