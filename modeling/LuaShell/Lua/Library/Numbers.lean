import LuaShell.Lua.Act

/-!
# The library of mathematics

Random numbers come from a generator with four words of state.
-/

namespace LuaShell.Lua.Library.Numbers

/-- The integer that a double is, or else the double. -/
def integral (x : Float) : Value :=
  match Value.intOfFloat? x with
  | some n => .int n
  | none => .num x

/-- `abs`. -/
def abs : Native := fun _ _ args => do
  match Act.argument args 1 with
  | .int n => return [.int (if n < 0 then -n else n)]
  | _ => return [.num (← Act.float args 1).abs]

/-- Round to an integer; integers stay as they are. -/
def rounding (f : Float → Float) : Native := fun _ _ args => do
  match Act.argument args 1 with
  | .int n => return [.int n]
  | _ => return [integral (f (← Act.float args 1))]

/-- A function of one double. -/
def ofOne (f : Float → Float) : Native := fun _ _ args => do
  return [.num (f (← Act.float args 1))]

/-- `atan`. -/
def atan : Native := fun _ _ args => do
  let y ← Act.float args 1
  let x ← if Act.isAbsent args 2 then pure 1.0 else Act.float args 2
  return [.num (Float.atan2 y x)]

/-- `log`. -/
def log : Native := fun _ _ args => do
  let x ← Act.float args 1
  if Act.isAbsent args 2 then return [.num x.log]
  let base ← Act.float args 2
  if base == 2.0 then return [.num x.log2]
  if base == 10.0 then return [.num x.log10]
  return [.num (x.log / base.log)]

/-- The part of a double before the point. -/
def truncate (x : Float) : Float :=
  if x < 0.0 then x.ceil else x.floor

/-- `fmod`. -/
def fmod : Native := fun _ _ args => do
  match Act.argument args 1, Act.argument args 2 with
  | .int m, .int n =>
      if n = 0 then Act.failAt 2 "zero"
      return [.int (Int64.ofInt (Int.tmod m.toInt n.toInt))]
  | _, _ =>
      let y ← Act.float args 2
      return [.num (Arithmetic.remainder (← Act.float args 1) y)]

/-- `modf`. -/
def modf : Native := fun _ _ args => do
  match Act.argument args 1 with
  | .int n => return [.int n, .num 0.0]
  | _ => do
      let x ← Act.float args 1
      let whole := truncate x
      return [integral whole, .num (if x == whole then 0.0 else x - whole)]

/-- The first argument that no other goes before, in an order. -/
def extreme (goesBefore : Calls → Value → Value → Act Bool) : Native := fun c _ args => do
  let mut best ← Act.any args 1
  for x in args.drop 1 do
    if ← goesBefore c x best then best := x
  return [best]

/-! ## Parts of doubles -/

/-- `pow`. -/
def pow : Native := fun _ _ args => do
  let x ← Act.float args 1
  return [.num (Float.pow x (← Act.float args 2))]

/-- `frexp`: a fraction from one half to one, and the power of two that goes with it. -/
def frexp : Native := fun _ _ args => do
  let x ← Act.float args 1
  if x.isNaN || x.isInf then return [.num x, .int 0]
  let (fraction, e) := x.frExp
  return [.num fraction, .int (Int64.ofInt e)]

/-- `ldexp`. -/
def ldexp : Native := fun _ _ args => do
  let x ← Act.float args 1
  return [.num (x.scaleB (← Act.int args 2).toInt32.toInt)]

/-- `ult`. -/
def ult : Native := fun _ _ args => do
  let a ← Act.int args 1
  let b ← Act.int args 2
  return [.bool (a.toUInt64 < b.toUInt64)]

/-- `tointeger`. -/
def tointeger : Native := fun _ _ args => do
  match ← Act.any args 1 with
  | .str b => return [(((Value.str b).asInt?).map Value.int).getD .nil]
  | v => return [((v.toInt?).map Value.int).getD .nil]

/-- `type`. -/
def type : Native := fun _ _ args => do
  match ← Act.any args 1 with
  | .int _ => return [.ofString "integer"]
  | .num _ => return [.ofString "float"]
  | _ => return [.nil]

/-! ## Random numbers -/

/-- A random word. -/
def randomWord : Act UInt64 :=
  Act.update fun s =>
    let (word, random) := s.random.next
    (word, { s with random := random })

/-- How often a word is drawn for one number. -/
def maxDraws : Nat := 10000

/-- A random integer between two integers. -/
def randomBetween (word : UInt64) (lo up : Int) : Act (List Value) := do
  if up < lo then Act.failAt 1 "interval is empty"
  let n ← Act.update fun s =>
    let (n, random) := RandomState.below (UInt64.ofNat (up - lo).toNat) maxDraws word s.random
    (n, { s with random := random })
  return [.int (Int64.ofInt (lo + n.toNat))]

/-- `random`. -/
def random : Native := fun _ _ args => do
  let word ← randomWord
  match args with
  | [] => return [.num (RandomState.unit word)]
  | [_] => do
      let up := (← Act.int args 1).toInt
      if up = 0 then return [.int word.toInt64]
      randomBetween word 1 up
  | [_, _] => randomBetween word (← Act.int args 1).toInt (← Act.int args 2).toInt
  | _ => Act.fail "wrong number of arguments"

/-- The integer that a number gives a seed. -/
def seedOf (v : Value) : Int64 :=
  match v.toInt? with
  | some n => n
  | none => match v with
    | .num x => x.toBits.toInt64
    | _ => 0

/-- `randomseed`. -/
def randomseed : Native := fun _ _ args => do
  let a ← if args.isEmpty then pure 0 else seedOf <$> Act.number args 1
  let b ← Act.intOr args 2 0
  Act.change fun s => { s with random := RandomState.ofSeed a.toUInt64 b.toUInt64 }
  return [.int a, .int b]

/-- The functions and their names. -/
def functions : List (String × Native) :=
  [("abs", abs), ("ceil", rounding Float.ceil), ("floor", rounding Float.floor),
   ("max", extreme fun c a b => Act.less c b a), ("min", extreme Act.less), ("fmod", fmod),
   ("modf", modf), ("log", log), ("exp", ofOne Float.exp), ("sqrt", ofOne Float.sqrt),
   ("sin", ofOne Float.sin), ("cos", ofOne Float.cos), ("tan", ofOne Float.tan),
   ("asin", ofOne Float.asin), ("acos", ofOne Float.acos), ("atan", atan),
   ("deg", ofOne fun x => x * (180.0 / 3.141592653589793)),
   ("rad", ofOne fun x => x * (3.141592653589793 / 180.0)), ("ult", ult),
   ("tointeger", tointeger), ("type", type), ("random", random), ("randomseed", randomseed),
   ("atan2", atan), ("cosh", ofOne Float.cosh), ("sinh", ofOne Float.sinh),
   ("tanh", ofOne Float.tanh), ("pow", pow), ("frexp", frexp), ("ldexp", ldexp),
   ("log10", ofOne Float.log10)]

/-- The constants and their names. -/
def constants : List (String × Value) :=
  [("pi", .num 3.141592653589793), ("huge", .num (1.0 / 0.0)),
   ("maxinteger", .int Int64.maxValue), ("mininteger", .int Int64.minValue)]

end LuaShell.Lua.Library.Numbers
