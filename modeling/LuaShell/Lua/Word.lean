import LuaShell.Lua.Instruction

/-!
# Instructions as words

In a binary chunk an instruction is a number below two to the thirty-second.  The
lowest seven bits say what it does; above them are eight bits for a register, one bit
for a choice, and twice eight bits for other operands.  Those last seventeen bits can
also be one long operand, and all bits but the lowest seven one distance.  Operands
that can be negative are kept with an offset.
-/

namespace LuaShell.Lua

namespace Word

/-! ## Parts of a word -/

/-- How many numbers eight bits, the long operand and the distance can be. -/
def byteCount : Nat := 256

def longCount : Nat := 131072

def distanceCount : Nat := 33554432

/-- What zero is kept as, in eight bits, in the long operand and in the distance. -/
def byteZero : Nat := 127

def longZero : Nat := 65535

def distanceZero : Nat := 16777215

/-- A number that can be negative, above an offset. -/
def lifted (offset : Nat) (n : Int) : Nat := (n + offset).toNat

/-- The number that has been kept above an offset. -/
def lowered (offset n : Nat) : Int := (n : Int) - offset

/-- The bit of a choice. -/
def bit (choice : Bool) : Nat := if choice then 1 else 0

/-- A word of four operands. -/
def ofParts (code a b c : Nat) (choice : Bool) : Nat :=
  code + 128 * (a % byteCount) + 32768 * bit choice + 65536 * (b % byteCount) +
    16777216 * (c % byteCount)

/-- A word of a register and a long operand. -/
def ofLong (code a long : Nat) : Nat :=
  code + 128 * (a % byteCount) + 32768 * (long % longCount)

/-- A word of one great operand. -/
def ofDistance (code n : Nat) : Nat := code + 128 * (n % distanceCount)

/-- The parts of a word. -/
def code (w : Nat) : Nat := w % 128

def a (w : Nat) : Nat := w / 128 % byteCount

def choice (w : Nat) : Bool := w / 32768 % 2 == 1

def b (w : Nat) : Nat := w / 65536 % byteCount

def c (w : Nat) : Nat := w / 16777216 % byteCount

def long (w : Nat) : Nat := w / 32768 % longCount

def distance (w : Nat) : Nat := w / 128 % distanceCount

/-! ## Tables -/

/-- The room for fields as a word says it: nothing, or how often it has to be halved to come
to one, and one more. -/
def room (fields : Nat) : Nat :=
  if fields = 0 then 0
  else if fields = 1 then 1
  else Nat.log2 (fields - 1) + 2

/-- No word asks for more room than two to this power. -/
def maxRoom : Nat := 24

/-- The room for fields that a word says. -/
def fieldsOfRoom (n : Nat) : Nat :=
  if n = 0 then 0 else Nat.pow 2 (min (n - 1) maxRoom)

end Word

namespace Arg

/-- The number of the register or the constant. -/
def index : Arg → Nat
  | .register r => r
  | .constant k => k

/-- Whether it is a constant. -/
def isConstant : Arg → Bool
  | .register _ => false
  | .constant _ => true

/-- An operand from its number, and whether it is a constant. -/
def of (n : Nat) (isConstant : Bool) : Arg := if isConstant then .constant n else .register n

end Arg

namespace Comparison

/-- The number of a comparison. -/
def number : Comparison → Nat
  | .eq => 0
  | .lt => 1
  | .le => 2

end Comparison

namespace UnaryOp

/-- The number of an operator. -/
def number : UnaryOp → Nat
  | .neg => 0
  | .bnot => 1
  | .not => 2
  | .len => 3

end UnaryOp

namespace Instr

open Word

/-- The word of an instruction that compares with a small number. -/
def wordOfSmall (code a : Nat) (n : Int) (isFloat outcome : Bool) : Nat :=
  ofParts code a (lifted byteZero n) (bit isFloat) outcome

/-- The word of an instruction. -/
def word : Instr → Nat
  | .move a b => ofParts 0 a b 0 false
  | .loadInt a n => ofLong 1 a (lifted longZero n)
  | .loadFloat a n => ofLong 2 a (lifted longZero n)
  | .loadConst a k => ofLong 3 a k
  | .loadFarConst a => ofLong 4 a 0
  | .loadFalse a => ofParts 5 a 0 0 false
  | .loadFalseSkip a => ofParts 6 a 0 0 false
  | .loadTrue a => ofParts 7 a 0 0 false
  | .loadNil a n => ofParts 8 a n 0 false
  | .getUpvalue a i => ofParts 9 a i 0 false
  | .setUpvalue a i => ofParts 10 a i 0 false
  | .getUpvalueField a i k => ofParts 11 a i k false
  | .getTable a b c => ofParts 12 a b c false
  | .getItem a b n => ofParts 13 a b n false
  | .getField a b k => ofParts 14 a b k false
  | .setUpvalueField i k v => ofParts 15 i k v.index v.isConstant
  | .setTable a b v => ofParts 16 a b v.index v.isConstant
  | .setItem a n v => ofParts 17 a n v.index v.isConstant
  | .setField a k v => ofParts 18 a k v.index v.isConstant
  | .newTable a fields items isMore => ofParts 19 a (room fields) items isMore
  | .method a b key => ofParts 20 a b key.index key.isConstant
  | .addInt a b n => ofParts 21 a b (lifted byteZero n) false
  | .arithConst op a b k => ofParts (22 + op.number) a b k false
  | .shiftRightInt a b n => ofParts 32 a b (lifted byteZero n) false
  | .shiftLeftInt a b n => ofParts 33 a b (lifted byteZero n) false
  | .arith op a b c => ofParts (34 + op.number) a b c false
  | .ask a b event => ofParts 46 a b event.number false
  | .askInt a n event isFlipped => ofParts 47 a (lifted byteZero n) event.number isFlipped
  | .askConst a k event isFlipped => ofParts 48 a k event.number isFlipped
  | .unary op a b => ofParts (49 + op.number) a b 0 false
  | .concat a n => ofParts 53 a n 0 false
  | .close a => ofParts 54 a 0 0 false
  | .toClose a => ofParts 55 a 0 0 false
  | .jump offset => ofDistance 56 (lifted distanceZero offset)
  | .compare c a b outcome => ofParts (57 + c.number) a b 0 outcome
  | .equalConst a k outcome => ofParts 60 a k 0 outcome
  | .equalInt a n isFloat outcome => wordOfSmall 61 a n isFloat outcome
  | .lessInt a n isFloat outcome => wordOfSmall 62 a n isFloat outcome
  | .lessEqualInt a n isFloat outcome => wordOfSmall 63 a n isFloat outcome
  | .greaterInt a n isFloat outcome => wordOfSmall 64 a n isFloat outcome
  | .greaterEqualInt a n isFloat outcome => wordOfSmall 65 a n isFloat outcome
  | .test a outcome => ofParts 66 a 0 0 outcome
  | .testSet a b outcome => ofParts 67 a b 0 outcome
  | .call a b c => ofParts 68 a b c false
  | .tailCall a b c closes => ofParts 69 a b c closes
  | .ret a b c closes => ofParts 70 a b c closes
  | .retNothing a b => ofParts 71 a b 0 false
  | .retOne a b => ofParts 72 a b 0 false
  | .forLoop a back => ofLong 73 a back
  | .forPrepare a forth => ofLong 74 a forth
  | .eachPrepare a forth => ofLong 75 a forth
  | .eachCall a count => ofParts 76 a 0 count false
  | .eachLoop a back => ofLong 77 a back
  | .setList a b items isMore => ofParts 78 a b items isMore
  | .closure a i => ofLong 79 a i
  | .vararg a c => ofParts 80 a 0 c false
  | .varargPrepare parameters => ofParts 81 parameters 0 0 false
  | .extra n => ofDistance 82 n

/-- The items that a word and the next one speak of. -/
def itemsOf (w next : Nat) : Nat :=
  if choice w then byteCount * distance next + c w else c w

/-- The event that a word asks about. -/
def eventOf (w : Nat) : Event := (Event.ofNumber? (c w)).getD .index

/-- The operand that ends a word. -/
def argOf (w : Nat) : Arg := Arg.of (c w) (choice w)

/-- The instruction of a word. The next word may say more about it. -/
def ofWord (w next : Nat) : Instr :=
  match code w with
  | 0 => .move (a w) (b w)
  | 1 => .loadInt (a w) (lowered longZero (long w))
  | 2 => .loadFloat (a w) (lowered longZero (long w))
  | 3 => .loadConst (a w) (long w)
  | 4 => .loadFarConst (a w)
  | 5 => .loadFalse (a w)
  | 6 => .loadFalseSkip (a w)
  | 7 => .loadTrue (a w)
  | 8 => .loadNil (a w) (b w)
  | 9 => .getUpvalue (a w) (b w)
  | 10 => .setUpvalue (a w) (b w)
  | 11 => .getUpvalueField (a w) (b w) (c w)
  | 12 => .getTable (a w) (b w) (c w)
  | 13 => .getItem (a w) (b w) (c w)
  | 14 => .getField (a w) (b w) (c w)
  | 15 => .setUpvalueField (a w) (b w) (argOf w)
  | 16 => .setTable (a w) (b w) (argOf w)
  | 17 => .setItem (a w) (b w) (argOf w)
  | 18 => .setField (a w) (b w) (argOf w)
  | 19 => .newTable (a w) (fieldsOfRoom (b w)) (itemsOf w next) (choice w)
  | 20 => .method (a w) (b w) (argOf w)
  | 21 => .addInt (a w) (b w) (lowered byteZero (c w))
  | 32 => .shiftRightInt (a w) (b w) (lowered byteZero (c w))
  | 33 => .shiftLeftInt (a w) (b w) (lowered byteZero (c w))
  | 46 => .ask (a w) (b w) (eventOf w)
  | 47 => .askInt (a w) (lowered byteZero (b w)) (eventOf w) (choice w)
  | 48 => .askConst (a w) (b w) (eventOf w) (choice w)
  | 49 => .unary .neg (a w) (b w)
  | 50 => .unary .bnot (a w) (b w)
  | 51 => .unary .not (a w) (b w)
  | 52 => .unary .len (a w) (b w)
  | 53 => .concat (a w) (b w)
  | 54 => .close (a w)
  | 55 => .toClose (a w)
  | 56 => .jump (lowered distanceZero (distance w))
  | 57 => .compare .eq (a w) (b w) (choice w)
  | 58 => .compare .lt (a w) (b w) (choice w)
  | 59 => .compare .le (a w) (b w) (choice w)
  | 60 => .equalConst (a w) (b w) (choice w)
  | 61 => .equalInt (a w) (lowered byteZero (b w)) (c w ≠ 0) (choice w)
  | 62 => .lessInt (a w) (lowered byteZero (b w)) (c w ≠ 0) (choice w)
  | 63 => .lessEqualInt (a w) (lowered byteZero (b w)) (c w ≠ 0) (choice w)
  | 64 => .greaterInt (a w) (lowered byteZero (b w)) (c w ≠ 0) (choice w)
  | 65 => .greaterEqualInt (a w) (lowered byteZero (b w)) (c w ≠ 0) (choice w)
  | 66 => .test (a w) (choice w)
  | 67 => .testSet (a w) (b w) (choice w)
  | 68 => .call (a w) (b w) (c w)
  | 69 => .tailCall (a w) (b w) (c w) (choice w)
  | 70 => .ret (a w) (b w) (c w) (choice w)
  | 71 => .retNothing (a w) (b w)
  | 72 => .retOne (a w) (b w)
  | 73 => .forLoop (a w) (long w)
  | 74 => .forPrepare (a w) (long w)
  | 75 => .eachPrepare (a w) (long w)
  | 76 => .eachCall (a w) (c w)
  | 77 => .eachLoop (a w) (long w)
  | 78 => .setList (a w) (b w) (itemsOf w next) (choice w)
  | 79 => .closure (a w) (long w)
  | 80 => .vararg (a w) (c w)
  | 81 => .varargPrepare (a w)
  | 82 => .extra (distance w)
  | n =>
      let known : Option Instr :=
        if n < 32 then (ArithOp.ofNumber? (n - 22)).map fun op => .arithConst op (a w) (b w) (c w)
        else (ArithOp.ofNumber? (n - 34)).map fun op => .arith op (a w) (b w) (c w)
      known.getD (.extra 0)

/-- The instructions of words. -/
def ofWords : List Nat → List Instr
  | [] => []
  | w :: ws => ofWord w ((ws.head?).getD 0) :: ofWords ws

end Instr

end LuaShell.Lua
