import LuaShell.Lua.Operator
import LuaShell.Lua.Value

/-!
# Instructions

The code of functions.  A function works on registers, which are places on the
stack of its thread counted from the first parameter; a call finds the function in
one register and the arguments in those after it, and leaves the results there.
Operations on numbers are followed by an instruction that asks a metatable; it is
skipped if the operands are numbers.

Counts in calls are one more than what they count; zero leaves it to the end of the
values in use.
-/

namespace LuaShell.Lua

/-- An operand that is a register or a constant. -/
inductive Arg where
  | register (r : Nat)
  | constant (k : Nat)

/-- One instruction. The first register is the one that is written, if any is. -/
inductive Instr where
  | move (a b : Nat)
  | loadInt (a : Nat) (n : Int)
  | loadFloat (a : Nat) (n : Int)
  | loadConst (a k : Nat)
  /-- The number of the constant is in the next instruction. -/
  | loadFarConst (a : Nat)
  | loadFalse (a : Nat)
  /-- Load false and skip the next instruction. -/
  | loadFalseSkip (a : Nat)
  | loadTrue (a : Nat)
  /-- Load nil into a register and so many more. -/
  | loadNil (a n : Nat)
  | getUpvalue (a i : Nat)
  | setUpvalue (a i : Nat)
  | getUpvalueField (a i k : Nat)
  | getTable (a b c : Nat)
  | getItem (a b n : Nat)
  | getField (a b k : Nat)
  | setUpvalueField (i k : Nat) (value : Arg)
  | setTable (a b : Nat) (value : Arg)
  | setItem (a n : Nat) (value : Arg)
  | setField (a k : Nat) (value : Arg)
  /-- A new table with room for fields and items, and whether the next instruction says more
  about the items. -/
  | newTable (a fields items : Nat) (isMore : Bool)
  | method (a b : Nat) (key : Arg)
  | addInt (a b : Nat) (n : Int)
  | arithConst (op : ArithOp) (a b k : Nat)
  | shiftRightInt (a b : Nat) (n : Int)
  | shiftLeftInt (a b : Nat) (n : Int)
  | arith (op : ArithOp) (a b c : Nat)
  /-- Ask a metatable about two registers. -/
  | ask (a b : Nat) (event : Event)
  | askInt (a : Nat) (n : Int) (event : Event) (isFlipped : Bool)
  | askConst (a k : Nat) (event : Event) (isFlipped : Bool)
  | unary (op : UnaryOp) (a b : Nat)
  /-- Put so many registers together. -/
  | concat (a n : Nat)
  | close (a : Nat)
  | toClose (a : Nat)
  /-- Jump from the next instruction on. -/
  | jump (offset : Int)
  /-- Skip the next instruction unless the comparison has this outcome. -/
  | compare (c : Comparison) (a b : Nat) (outcome : Bool)
  | equalConst (a k : Nat) (outcome : Bool)
  | equalInt (a : Nat) (n : Int) (isFloat outcome : Bool)
  | lessInt (a : Nat) (n : Int) (isFloat outcome : Bool)
  | lessEqualInt (a : Nat) (n : Int) (isFloat outcome : Bool)
  | greaterInt (a : Nat) (n : Int) (isFloat outcome : Bool)
  | greaterEqualInt (a : Nat) (n : Int) (isFloat outcome : Bool)
  | test (a : Nat) (outcome : Bool)
  | testSet (a b : Nat) (outcome : Bool)
  | call (a b c : Nat)
  | tailCall (a b c : Nat) (closes : Bool)
  /-- Return so many registers; a variadic function says how many parameters it has. -/
  | ret (a b c : Nat) (closes : Bool)
  | retNothing (a b : Nat)
  | retOne (a b : Nat)
  | forLoop (a back : Nat)
  | forPrepare (a forth : Nat)
  | eachPrepare (a forth : Nat)
  | eachCall (a count : Nat)
  | eachLoop (a back : Nat)
  /-- Store registers into a table, after so many items. -/
  | setList (a b items : Nat) (isMore : Bool)
  | closure (a i : Nat)
  | vararg (a c : Nat)
  | varargPrepare (parameters : Nat)
  /-- More about the instruction before. -/
  | extra (n : Nat)

instance : Inhabited Instr := ⟨.extra 0⟩

/-- A variable of a function, and from which instruction to which it is in scope. -/
structure LocalName where
  name : String
  start : Nat
  stop : Nat

/-- Where a new closure finds an upvalue: in a register of the function around it, or among
the upvalues of that. -/
structure UpvalueInfo where
  name : Option String
  inStack : Bool
  index : Nat
  role : VarRole

/-- A function before it is made a value. -/
structure Proto where
  parameters : Nat
  isVararg : Bool
  /-- How many registers there are. -/
  registers : Nat
  code : Array Instr
  constants : Array Value
  upvalues : Array UpvalueInfo
  protos : Array Proto
  /-- The line of every instruction; none if they are not known. -/
  lines : Array Nat
  locals : Array LocalName
  /-- The chunk it comes from, if that is known. -/
  source : Option ByteArray
  line : Nat
  lastLine : Nat

instance : Inhabited Proto :=
  ⟨⟨0, false, 2, #[], #[], #[], #[], #[], #[], none, 0, 0⟩⟩

/-- What a value is called: what kind of thing has the name, and the name. -/
abbrev OperandName := Option (String × ByteArray)

end LuaShell.Lua
