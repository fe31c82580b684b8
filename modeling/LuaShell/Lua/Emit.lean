import LuaShell.Lua.Reader

/-!
# Writing instructions

Instructions are added at the end of the innermost function.  A jump is written
before its target is known, and patched afterwards; jumps that share a target are
kept in a list.  A jump that hangs on a condition follows the instruction that tests
it, and a test may also move the value it tests, which a patch can give up.
-/

namespace LuaShell.Lua

namespace Instr

/-- Write to another register. -/
def withTarget (i : Instr) (a : Nat) : Instr :=
  match i with
  | .move _ b => .move a b
  | .getUpvalue _ i => .getUpvalue a i
  | .getUpvalueField _ i k => .getUpvalueField a i k
  | .getTable _ b c => .getTable a b c
  | .getItem _ b n => .getItem a b n
  | .getField _ b k => .getField a b k
  | .addInt _ b n => .addInt a b n
  | .arithConst op _ b k => .arithConst op a b k
  | .shiftRightInt _ b n => .shiftRightInt a b n
  | .shiftLeftInt _ b n => .shiftLeftInt a b n
  | .arith op _ b c => .arith op a b c
  | .unary op _ b => .unary op a b
  | .testSet _ b outcome => .testSet a b outcome
  | .closure _ i => .closure a i
  | .vararg _ c => .vararg a c
  | i => i

/-- Whether an instruction skips the next one on some condition. -/
def isTest : Instr → Bool
  | .compare .. | .equalConst .. | .equalInt .. | .lessInt .. | .lessEqualInt ..
  | .greaterInt .. | .greaterEqualInt .. | .test .. | .testSet .. => true
  | _ => false

/-- The test with the opposite outcome. -/
def negated : Instr → Instr
  | .compare c a b outcome => .compare c a b !outcome
  | .equalConst a k outcome => .equalConst a k !outcome
  | .equalInt a n isFloat outcome => .equalInt a n isFloat !outcome
  | .lessInt a n isFloat outcome => .lessInt a n isFloat !outcome
  | .lessEqualInt a n isFloat outcome => .lessEqualInt a n isFloat !outcome
  | .greaterInt a n isFloat outcome => .greaterInt a n isFloat !outcome
  | .greaterEqualInt a n isFloat outcome => .greaterEqualInt a n isFloat !outcome
  | i => i

/-- A call that leaves so many results, or all. -/
def withResults (i : Instr) (c : Nat) : Instr :=
  match i with
  | .call a b _ => .call a b c
  | .vararg a _ => .vararg a c
  | i => i

end Instr

namespace Parse

/-! ## Instructions -/

/-- The place of the next instruction. -/
def here : Parse Nat := ofScope (·.code.size)

/-- Write an instruction, and answer its place. -/
def emit (i : Instr) : Parse Nat := do
  let s ← get
  modifyScope fun f => { f with code := f.code.push i, lines := f.lines.push s.lastLine }
  return (← here) - 1

/-- Write an instruction whose place does not matter. -/
def emit_ (i : Instr) : Parse Unit := do
  let _ ← emit i

/-- Give the last instruction another line. -/
def fixLine (line : Nat) : Parse Unit :=
  modifyScope fun f => { f with lines := f.lines.setIfInBounds (f.lines.size - 1) line }

/-- The instruction at a place. -/
def instrAt (place : Nat) : Parse Instr :=
  ofScope fun f => (f.code[place]?).getD default

/-- Change the instruction at a place. -/
def modifyInstr (place : Nat) (g : Instr → Instr) : Parse Unit :=
  modifyScope fun f => { f with code := f.code.modify place g }

/-- The next place, which a jump leads to. -/
def mark : Parse Nat := do
  let place ← here
  modifyScope fun f => { f with target := place }
  return place

/-- The last instruction, unless a jump leads to what follows it. -/
def previous? : Parse (Option Instr) :=
  ofScope fun f => if f.target < f.code.size then f.code.back? else none

/-- Take the last instruction away. -/
def removeLast : Parse Unit :=
  modifyScope fun f => { f with code := f.code.pop, lines := f.lines.pop }

/-! ## Registers -/

/-- How many registers a function can have. -/
def maxRegisters : Nat := 255

/-- See to it that there are so many more registers. -/
def ensureRegisters (n : Nat) : Parse Unit := do
  let f ← scope
  let size := f.free + n
  if f.registers < size then
    if maxRegisters ≤ size then fail "function or expression needs too many registers"
    modifyScope fun f => { f with registers := size }

/-- Take the next registers. -/
def takeRegisters (n : Nat) : Parse Unit := do
  ensureRegisters n
  modifyScope fun f => { f with free := f.free + n }

/-- Give a register back if it is no variable. -/
def freeRegister (r : Nat) : Parse Unit :=
  modifyScope fun f => if f.level ≤ r then { f with free := f.free - 1 } else f

/-- Give two registers back, the higher one first. -/
def freeRegisters (r₁ r₂ : Nat) : Parse Unit := do
  freeRegister (max r₁ r₂)
  freeRegister (min r₁ r₂)

/-- Load nil into registers; with the same just before, that is one instruction. -/
def emitNil (first n : Nat) : Parse Unit := do
  let last := first + n - 1
  match ← previous? with
  | some (.loadNil a b) =>
      if (a ≤ first && first ≤ a + b + 1) || (first ≤ a && a ≤ last + 1) then
        let start := min a first
        modifyInstr ((← here) - 1) fun _ => .loadNil start (max (a + b) last - start)
      else emit_ (.loadNil first (n - 1))
  | _ => emit_ (.loadNil first (n - 1))

/-! ## Constants -/

/-- A constant as one that can be found again. -/
def constantKey : Value → ConstantKey
  | .bool b => .bool b
  | .int n => .int n
  | .num x => .num x.toBits
  | .str bytes => .str bytes
  | _ => .nil

/-- Whether two constants are the same. -/
def sameConstant (a b : Value) : Bool :=
  constantKey a == constantKey b

/-- The number of a constant. Where it was last needed it may have had another function's
number. -/
def constant (v : Value) : Parse Nat := do
  let s ← get
  let f ← scope
  let key := constantKey v
  match s.numbers[key]? with
  | some k => if (f.constants[k]?).any (sameConstant v) then return k else add key f.constants.size
  | none => add key f.constants.size
where
  add (key : ConstantKey) (k : Nat) : Parse Nat := do
    modify fun s => { s with numbers := s.numbers.insert key k }
    modifyScope fun f => { f with constants := f.constants.push v }
    return k

/-- The greatest number that the long operand of an instruction can be. -/
def maxLongOperand : Nat := 131071

/-- Load a constant. -/
def emitConstant (r k : Nat) : Parse Unit := do
  if k ≤ maxLongOperand then emit_ (.loadConst r k)
  else
    emit_ (.loadFarConst r)
    emit_ (.extra k)

/-- Whether an integer can stand in an instruction that loads it. -/
def fitsLong (n : Int) : Bool := -65535 ≤ n && n ≤ 65536

/-- Load an integer. -/
def emitInt (r : Nat) (n : Int64) : Parse Unit := do
  if fitsLong n.toInt then emit_ (.loadInt r n.toInt)
  else emitConstant r (← constant (.int n))

/-- Load a double. -/
def emitFloat (r : Nat) (x : Float) : Parse Unit := do
  match Value.intOfFloat? x with
  | some n =>
      if fitsLong n.toInt then emit_ (.loadFloat r n.toInt)
      else emitConstant r (← constant (.num x))
  | none => emitConstant r (← constant (.num x))

/-! ## Jumps -/

/-- Write a jump whose target is not known yet. -/
def jump : Parse Nat := emit (.jump 0)

/-- Fail because a jump is too far. -/
def failDistance {α : Type} : Parse α := fail "control structure too long"

/-- How far a jump can lead. -/
def maxJump : Nat := 16777215

/-- Give a jump its target. -/
def fixJump (place target : Nat) : Parse Unit := do
  let offset : Int := (target : Int) - (place + 1)
  if maxJump < offset.natAbs then failDistance
  modifyInstr place fun _ => .jump offset

/-- The place of the instruction that decides about a jump: the test before it, or itself. -/
def controlOf (place : Nat) : Parse Nat := do
  if 1 ≤ place && (← instrAt (place - 1)).isTest then return place - 1 else return place

/-- Let a test that would move its value move it into a register, or into none. Answers
whether it is such a test. -/
def patchTest (place : Nat) (register : Option Nat) : Parse Bool := do
  let control ← controlOf place
  match ← instrAt control with
  | .testSet _ b outcome =>
      modifyInstr control fun _ => match register with
        | some r => if r = b then .test b outcome else .testSet r b outcome
        | none => .test b outcome
      return true
  | _ => return false

/-- Whether some of these jumps come without a value. -/
def needValue : List Nat → Parse Bool
  | [] => return false
  | place :: places => do
      match ← instrAt (← controlOf place) with
      | .testSet .. => needValue places
      | _ => return true

/-- Let tests move no value. -/
def dropValues : List Nat → Parse Unit
  | [] => return ()
  | place :: places => do
      let _ ← patchTest place none
      dropValues places

/-- Give jumps a target: one for those that move their value to a register, and one for
those that do not. -/
def patchEach (withValue : Nat) (register : Option Nat) (without : Nat) :
    List Nat → Parse Unit
  | [] => return ()
  | place :: places => do
      if ← patchTest place register then fixJump place withValue else fixJump place without
      patchEach withValue register without places

/-- Give jumps a target. -/
def patch (places : List Nat) (target : Nat) : Parse Unit :=
  patchEach target none target places

/-- Let jumps lead to the next instruction. -/
def patchHere (places : List Nat) : Parse Unit := do
  patch places (← mark)

/-- Write a test and a jump that follows it; answers the place of the jump. -/
def emitTest (i : Instr) : Parse Nat := do
  emit_ i
  jump

/-! ## Functions -/

/-- Return so many values from a register on; `none` stands for all that there are. -/
def emitReturn (first : Nat) (count : Option Nat) : Parse Unit :=
  match count with
  | some 0 => emit_ (.retNothing first 1)
  | some 1 => emit_ (.retOne first 2)
  | some n => emit_ (.ret first (n + 1) 0 false)
  | none => emit_ (.ret first 0 0 false)

end Parse

namespace FunctionScope

/-- How many jumps in a row are looked through. -/
def maxJumpChain : Nat := 100

/-- Where a jump comes to in the end. -/
def finalTarget (code : Array Instr) : Nat → Nat → Nat
  | 0, place => place
  | n + 1, place => match code[place]? with
    | some (.jump offset) => finalTarget code n ((place + 1 : Int) + offset).toNat
    | _ => place

/-- The last look at an instruction: returns get to know whether they have to close
variables and whether there are extra arguments, and jumps lead to their ends. -/
def finishInstr (closes : Bool) (extra : Nat) (code : Array Instr) (place : Nat) : Instr → Instr
  | .retNothing a b => if closes || extra ≠ 0 then .ret a b extra closes else .retNothing a b
  | .retOne a b => if closes || extra ≠ 0 then .ret a b extra closes else .retOne a b
  | .ret a b _ _ => .ret a b extra closes
  | .tailCall a b _ _ => .tailCall a b extra closes
  | .jump _ => .jump ((finalTarget code maxJumpChain place : Int) - (place + 1))
  | i => i

/-- The code with a last look at every instruction. -/
def finishedCode (f : FunctionScope) : Array Instr :=
  let extra := if f.isVararg then f.parameters + 1 else 0
  (List.range f.code.size).foldl (fun code place =>
    match code[place]? with
    | some i => code.setIfInBounds place (finishInstr f.needsClose extra code place i)
    | none => code) f.code

end FunctionScope

end LuaShell.Lua
