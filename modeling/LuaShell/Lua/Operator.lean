/-!
# Operators of Lua

The operators that compute, and the events by which metatables speak of them.
-/

namespace LuaShell.Lua

/-- Operators with two operands that compute a number. -/
inductive ArithOp where
  | add
  | sub
  | mul
  | mod
  | pow
  | div
  | idiv
  | band
  | bor
  | bxor
  | shl
  | shr
  deriving DecidableEq

/-- Operators with one operand. -/
inductive UnaryOp where
  | neg
  | bnot
  | not
  | len
  deriving DecidableEq

/-- Comparisons that a table can define. -/
inductive Comparison where
  | eq
  | lt
  | le
  deriving DecidableEq

/-- What is special about a variable. -/
inductive VarRole where
  | plain
  | const
  | close
  deriving DecidableEq

/-- An event: something that a metatable can define. -/
inductive Event where
  | index
  | newindex
  | gc
  | mode
  | len
  | eq
  | arith (op : ArithOp)
  | unm
  | bnot
  | lt
  | le
  | concat
  | call
  | close
  deriving DecidableEq

namespace ArithOp

/-- All of them, in the order in which they are numbered. -/
def all : List ArithOp :=
  [.add, .sub, .mul, .mod, .pow, .div, .idiv, .band, .bor, .bxor, .shl, .shr]

/-- The name without any mark. -/
def name : ArithOp → String
  | .add => "add"
  | .sub => "sub"
  | .mul => "mul"
  | .mod => "mod"
  | .pow => "pow"
  | .div => "div"
  | .idiv => "idiv"
  | .band => "band"
  | .bor => "bor"
  | .bxor => "bxor"
  | .shl => "shl"
  | .shr => "shr"

/-- Whether an operation is about bits. -/
def isBitwise : ArithOp → Bool
  | .band | .bor | .bxor | .shl | .shr => true
  | _ => false

/-- The number of an operation. -/
def number (op : ArithOp) : Nat :=
  all.idxOf op

/-- The operation of a number. -/
def ofNumber? (n : Nat) : Option ArithOp :=
  all[n]?

theorem ofNumber?_number (op : ArithOp) : ofNumber? op.number = some op := by
  cases op <;> rfl

end ArithOp

namespace VarRole

/-- All of them, in the order in which they are numbered. -/
def all : List VarRole := [.plain, .const, .close]

/-- The number of a role. -/
def number (role : VarRole) : Nat := all.idxOf role

/-- The role of a number. -/
def ofNumber? (n : Nat) : Option VarRole := all[n]?

theorem ofNumber?_number (role : VarRole) : ofNumber? role.number = some role := by
  cases role <;> rfl

end VarRole

namespace Event

/-- All of them, in the order in which they are numbered. -/
def all : List Event :=
  [.index, .newindex, .gc, .mode, .len, .eq] ++ ArithOp.all.map .arith ++
    [.unm, .bnot, .lt, .le, .concat, .call, .close]

/-- The number of an event. -/
def number (e : Event) : Nat := all.idxOf e

/-- The event of a number. -/
def ofNumber? (n : Nat) : Option Event := all[n]?

theorem ofNumber?_number (e : Event) : ofNumber? e.number = some e := by
  cases e with
  | arith op => cases op <;> rfl
  | _ => rfl

/-- The name as call stacks show it. -/
def name : Event → String
  | .index => "index"
  | .newindex => "newindex"
  | .gc => "gc"
  | .mode => "mode"
  | .len => "len"
  | .eq => "eq"
  | .arith op => op.name
  | .unm => "unm"
  | .bnot => "bnot"
  | .lt => "lt"
  | .le => "le"
  | .concat => "concat"
  | .call => "call"
  | .close => "close"

/-- The key in a metatable: the name after two low lines. -/
def key : Event → ByteArray
  | .index => "__index".toUTF8
  | .newindex => "__newindex".toUTF8
  | .gc => "__gc".toUTF8
  | .mode => "__mode".toUTF8
  | .len => "__len".toUTF8
  | .eq => "__eq".toUTF8
  | .arith .add => "__add".toUTF8
  | .arith .sub => "__sub".toUTF8
  | .arith .mul => "__mul".toUTF8
  | .arith .mod => "__mod".toUTF8
  | .arith .pow => "__pow".toUTF8
  | .arith .div => "__div".toUTF8
  | .arith .idiv => "__idiv".toUTF8
  | .arith .band => "__band".toUTF8
  | .arith .bor => "__bor".toUTF8
  | .arith .bxor => "__bxor".toUTF8
  | .arith .shl => "__shl".toUTF8
  | .arith .shr => "__shr".toUTF8
  | .unm => "__unm".toUTF8
  | .bnot => "__bnot".toUTF8
  | .lt => "__lt".toUTF8
  | .le => "__le".toUTF8
  | .concat => "__concat".toUTF8
  | .call => "__call".toUTF8
  | .close => "__close".toUTF8

end Event

end LuaShell.Lua
