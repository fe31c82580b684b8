import LuaShell.Lua.Arithmetic
import LuaShell.Lua.Naming

/-!
# What operations lead to

An operation on values has an answer at once, or a metatable says what is to be
called for it, or it is a fault.  A fault knows which operand it is about, by the
place of that; what is there has a name perhaps, which the message then mentions.
-/

namespace LuaShell.Lua

/-- Where an operand is. -/
inductive Origin where
  | register (r : Nat)
  | upvalue (i : Nat)
  | elsewhere

/-- Why an operation has no answer. -/
inductive Fault where
  | text (message : String)
  /-- An operation that the type of an operand does not have. -/
  | kind (v : Value) (action : String) (origin : Origin)
  /-- A double that stands where an integer is needed. -/
  | noInteger (origin : Origin)
  | order (a b : Value)

/-- What an operation leads to. -/
inductive Reaction where
  | value (v : Value)
  /-- A metamethod and its arguments. -/
  | invoke (function : Value) (arguments : List Value)
  /-- The same, but the answer is the opposite of what that says. -/
  | deny (function : Value) (arguments : List Value)
  | fault (cause : Fault)

namespace State

/-! ## Faults -/

/-- The name of an operand as a part of a message. -/
def nameNote : OperandName → ByteArray
  | some (kind, name) =>
      s!" ({kind} '".toUTF8 ++ Value.untilZero name ++ "')".toUTF8
  | none => .empty

/-- The message of a fault. `name` gives names to operands. -/
def faultText (s : State) (name : Origin → OperandName) : Fault → ByteArray
  | .text message => message.toUTF8
  | .kind v action origin =>
      s!"attempt to {action} a ".toUTF8 ++ s.typeNameOf v ++ " value".toUTF8 ++
        nameNote (name origin)
  | .noInteger origin =>
      "number".toUTF8 ++ nameNote (name origin) ++ " has no integer representation".toUTF8
  | .order a b =>
      let s₁ := s.typeNameOf a
      let s₂ := s.typeNameOf b
      if s₁ == s₂ then "attempt to compare two ".toUTF8 ++ s₁ ++ " values".toUTF8
      else "attempt to compare ".toUTF8 ++ s₁ ++ " with ".toUTF8 ++ s₂

/-- The message of a fault whose operands have no names. -/
def plainFaultText (s : State) (fault : Fault) : ByteArray :=
  s.faultText (fun _ => none) fault

/-! ## Fields -/

/-- The metamethod of one of two operands, the first one if it has one. -/
def eitherMetamethod (s : State) (a b : Value) (event : Event) : Value :=
  match s.metamethod a event with
  | .nil => s.metamethod b event
  | m => m

/-- How many tables are asked in turn for a field. -/
def maxChain : Nat := 2000

/-- Read a field. What is asked in place of the object has no name. -/
def index (s : State) (object key : Value) (origin : Origin) : Reaction :=
  follow maxChain origin object
where
  follow : Nat → Origin → Value → Reaction
    | 0, _, _ => .fault (.text "'__index' chain too long; possibly a loop")
    | n + 1, origin, o =>
        let inMeta : Value → Reaction
          | .nil => match o with
            | .table _ => .value .nil
            | o => .fault (.kind o "index" origin)
          | .func id => .invoke (.func id) [o, key]
          | m => follow n .elsewhere m
        match o with
        | .table id =>
            let t := s.table id
            match t.get key with
            | .nil => match t.metatable with
              | none => .value .nil
              | some m => inMeta ((s.table m).getNode (.str Event.index.key))
            | v => .value v
        | o => inMeta (s.metamethod o .index)

/-- Why a key cannot be assigned to. -/
def keyFault? : Value → Option String
  | .nil => some "table index is nil"
  | .num x => if x.isNaN then some "table index is NaN" else none
  | _ => none

/-- Where assigning a field leads to: the table to change, or else what to call. -/
def assignTarget (s : State) (object key value : Value) (origin : Origin) : Nat ⊕ Reaction :=
  follow maxChain origin object
where
  follow : Nat → Origin → Value → Nat ⊕ Reaction
    | 0, _, _ => .inr (.fault (.text "'__newindex' chain too long; possibly a loop"))
    | n + 1, origin, o =>
        let inMeta (ifNil : Unit → Nat ⊕ Reaction) : Value → Nat ⊕ Reaction
          | .nil => ifNil ()
          | .func id => .inr (.invoke (.func id) [o, key, value])
          | m => follow n .elsewhere m
        match o with
        | .table id =>
            let t := s.table id
            let here : Unit → Nat ⊕ Reaction := fun _ => match keyFault? key with
              | some message => .inr (.fault (.text message))
              | none => .inl id
            match t.metatable with
            | none => here ()
            | some m =>
                if (t.get key).isNil then
                  inMeta here ((s.table m).getNode (.str Event.newindex.key))
                else here ()
        | o =>
            inMeta (fun _ => .inr (.fault (.kind o "index" origin)))
              (s.metamethod o .newindex)

/-- Take note that a key of a table has been read. -/
def noteRead (s : State) (object key : Value) : State :=
  match object, key with
  | .table id, .int n =>
      if (s.table id).isTold n then s.modifyTable id (·.told n) else s
  | _, _ => s

/-! ## Operators -/

/-- The fault of an operation on numbers. It is about the second operand if the first one is
a number. -/
def arithmeticFault (fault : ArithmeticFault) (isBitwise : Bool) (a b : Value)
    (left right : Origin) : Fault :=
  match fault with
  | .divisionByZero => .text "attempt to divide by zero"
  | .remainderByZero => .text "attempt to perform 'n%0'"
  | .operand =>
      let action := if isBitwise then "perform bitwise operation on" else "perform arithmetic on"
      if a.toFloat?.isSome then .kind b action right else .kind a action left
  | .noInteger => .noInteger (if a.toInt?.isSome then right else left)

/-- Ask a metatable about an operation on two values that are no numbers. -/
def ask (s : State) (event : Event) (a b : Value) (left right : Origin) : Reaction :=
  match s.eitherMetamethod a b event with
  | .nil =>
      let isBitwise := match event with
        | .arith op => op.isBitwise
        | .bnot => true
        | _ => false
      let numbers := a.toFloat?.isSome && b.toFloat?.isSome
      .fault (arithmeticFault (if isBitwise && numbers then .noInteger else .operand)
        isBitwise a b left right)
  | m => .invoke m [a, b]

/-- Compute with two values. -/
def arithmetic (s : State) (op : ArithOp) (a b : Value) : Reaction :=
  match Arithmetic.binary op a b with
  | .ok v => .value v
  | .error .divisionByZero => .fault (arithmeticFault .divisionByZero false a b .elsewhere .elsewhere)
  | .error .remainderByZero =>
      .fault (arithmeticFault .remainderByZero false a b .elsewhere .elsewhere)
  | .error _ => s.ask (.arith op) a b .elsewhere .elsewhere

/-- Put two values together. -/
def concat (s : State) (a b : Value) (left right : Origin) : Reaction :=
  match a.asBytes?, b.asBytes? with
  | some x, some y => .value (.str (x ++ y))
  | x, _ => match s.eitherMetamethod a b .concat with
    | .nil =>
        .fault (if x.isSome then .kind b "concatenate" right else .kind a "concatenate" left)
    | m => .invoke m [a, b]

/-- Whether a value goes before another one. The answer of a call counts by its truth. A value
does not go after another one if that does not go before it. -/
def less (s : State) (orEqual : Bool) (a b : Value) : Reaction :=
  match Arithmetic.less? orEqual a b with
  | some answer => .value (.bool answer)
  | none => match s.eitherMetamethod a b (if orEqual then .le else .lt) with
    | .nil =>
        if orEqual then match s.eitherMetamethod b a .lt with
          | .nil => .fault (.order a b)
          | m => .deny m [b, a]
        else .fault (.order a b)
    | m => .invoke m [a, b]

/-- Whether two values are equal. The answer of a call counts by its truth. -/
def equal (s : State) (a b : Value) : Reaction :=
  if a.rawEquals b then .value (.bool true)
  else
    let ask : Reaction := match s.eitherMetamethod a b .eq with
      | .nil => .value (.bool false)
      | m => .invoke m [a, b]
    match a, b with
    | .table _, .table _ => ask
    | .stream _, .stream _ => ask
    | _, _ => .value (.bool false)

/-- An operation with one operand, the length apart. -/
def unary (s : State) (op : UnaryOp) (a : Value) (origin : Origin) : Reaction :=
  match op with
  | .not => .value (.bool !a.truthy)
  | .neg => match Arithmetic.negate a with
    | .ok v => .value v
    | .error _ => s.ask .unm a a origin origin
  | .bnot => match Arithmetic.complement a with
    | .ok v => .value v
    | .error _ => s.ask .bnot a a origin origin
  | .len => match a with
    | .str bytes => .value (.int (Int64.ofNat bytes.size))
    | a => match s.metamethod a .len with
      | .nil => match a with
        | .table id => .value (.int (Int64.ofNat (s.table id).length.1))
        | a => .fault (.kind a "get length of" origin)
      | m => .invoke m [a, a]

/-- Take note of where the end of a table has been found. -/
def noteLength (s : State) (v : Value) : State :=
  match v with
  | .table id =>
      let t := s.table id
      let found := t.length.2
      if found.hint = t.hint then s else s.modifyTable id fun t => { t with hint := found.hint }
  | _ => s

/-! ## Calls -/

/-- How many functions are asked in turn how they are called. -/
def maxCallChain : Nat := 1000000

/-- The function that a call comes to, and its arguments; or else what cannot be called. -/
def callTarget (s : State) : Nat → Value → List Value → Except (Option Value) (Nat × List Value)
  | 0, _, _ => .error none
  | n + 1, v, arguments => match v with
    | .func id => .ok (id, arguments)
    | v => match s.metamethod v .call with
      | .nil => .error (some v)
      | m => s.callTarget n m (v :: arguments)

end State

end LuaShell.Lua
