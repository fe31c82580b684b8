import LuaShell.Lua.Emit

/-!
# Operands

An expression that has been read, before it is known where its value is needed: it
may be a constant, a variable, a field that is still to be fetched, a test with its
jumps, or an instruction whose target register is still open.  Code is written only
when the value has to be somewhere.
-/

namespace LuaShell.Lua

/-- What has been read. -/
inductive Operand where
  | void
  | nil
  | true
  | false
  /-- A constant by its number. -/
  | constant (k : Nat)
  | int (n : Int64)
  | num (x : Float)
  | str (bytes : ByteArray)
  /-- A value in a register. -/
  | register (r : Nat)
  /-- A variable: its register, its number among those in scope, and what it is. -/
  | variable (r number : Nat)
  | upvalue (i : Nat)
  /-- A variable whose value is known. -/
  | known (name : String) (v : Value)
  /-- A field: table and key are in registers. -/
  | element (t key : Nat)
  /-- A field with a constant name of a table that is an upvalue. -/
  | upField (i k : Nat)
  /-- A field with a small number. -/
  | item (t n : Nat)
  /-- A field with a constant name. -/
  | field (t k : Nat)
  /-- A test whose jump is at a place. -/
  | jump (place : Nat)
  /-- An instruction whose target is open. -/
  | pending (place : Nat)
  | call (place : Nat)
  | vararg (place : Nat)
  deriving Inhabited

/-- An expression, with the jumps that leave it when it is true or when it is false. -/
structure Expr where
  kind : Operand
  onTrue : List Nat
  onFalse : List Nat
  deriving Inhabited

namespace Operand

/-- Whether there can be more or fewer values than one. -/
def isOpen : Operand → Bool
  | .call _ | .vararg _ => Bool.true
  | _ => Bool.false

/-- Whether it is a field. -/
def isIndexed : Operand → Bool
  | .element .. | .upField .. | .item .. | .field .. => Bool.true
  | _ => Bool.false

/-- Whether it is something that can be assigned to, or a known constant. -/
def isTarget : Operand → Bool
  | .variable .. | .upvalue _ | .known .. => Bool.true
  | e => e.isIndexed

/-- The operand of a known value. -/
def ofValue : Value → Operand
  | .bool Bool.true => .true
  | .bool Bool.false => .false
  | .int n => .int n
  | .num x => .num x
  | .str bytes => .str bytes
  | _ => .nil

end Operand

namespace Expr

/-- An expression without jumps. -/
def of (kind : Operand) : Expr := ⟨kind, [], []⟩

/-- Whether jumps leave it. -/
def hasJumps (e : Expr) : Bool := !(e.onTrue.isEmpty && e.onFalse.isEmpty)

/-- Another operand in the same place. -/
def withKind (e : Expr) (kind : Operand) : Expr := { e with kind := kind }

/-- The number that an expression is, as it stands. -/
def numeral? (e : Expr) : Option Value :=
  if e.hasJumps then none
  else match e.kind with
    | .int n => some (.int n)
    | .num x => some (.num x)
    | _ => none

/-- The value of an expression, if it is known. -/
def known? (e : Expr) : Option Value :=
  if e.hasJumps then none
  else match e.kind with
    | .nil => some .nil
    | .true => some (.bool true)
    | .false => some (.bool false)
    | .str bytes => some (.str bytes)
    | .known _ v => some v
    | _ => e.numeral?

/-- Whether an integer can stand in the short operand of an instruction. -/
def fitsShort (n : Int) : Bool := -127 ≤ n && n ≤ 128

/-- The small integer that an expression is. -/
def shortInt? (e : Expr) : Option Int :=
  match e.numeral? with
  | some (.int n) => if fitsShort n.toInt then some n.toInt else none
  | _ => none

/-- The small integer that an expression is equal to, and whether it is a double. -/
def shortNumber? (e : Expr) : Option (Int × Bool) :=
  match e.numeral? with
  | some (.int n) => if fitsShort n.toInt then some (n.toInt, false) else none
  | some (.num x) => match Value.intOfFloat? x with
    | some n => if fitsShort n.toInt then some (n.toInt, true) else none
    | none => none
  | _ => none

end Expr

namespace Parse

/-! ## Registers of expressions -/

/-- Give the register of an expression back. -/
def freeExpr (e : Expr) : Parse Unit :=
  match e.kind with
  | .register r => freeRegister r
  | _ => return ()

/-- Give the registers of two expressions back. -/
def freeExprs (a b : Expr) : Parse Unit :=
  match a.kind, b.kind with
  | .register r, .register s => freeRegisters r s
  | _, _ => do
      freeExpr a
      freeExpr b

/-! ## Values of expressions -/

/-- A call or the extra arguments, cut to one value. -/
def oneResult (e : Expr) : Parse Expr := do
  match e.kind with
  | .call place => match ← instrAt place with
    | .call a _ _ => return e.withKind (.register a)
    | _ => return e
  | .vararg place =>
      modifyInstr place (·.withResults 2)
      return e.withKind (.pending place)
  | _ => return e

/-- Let a call or the extra arguments have so many values; `none` stands for all. -/
def openResults (e : Expr) (count : Option Nat) : Parse Unit := do
  let c := match count with
    | some n => n + 1
    | none => 0
  match e.kind with
  | .call place => modifyInstr place (·.withResults c)
  | .vararg place =>
      let f ← scope
      modifyInstr place fun i => (i.withResults c).withTarget f.free
      takeRegisters 1
  | _ => return ()

/-- Write the instruction that fetches a variable or a field. -/
def fetch (e : Expr) : Parse Expr := do
  match e.kind with
  | .known _ v => return e.withKind (.ofValue v)
  | .variable r _ => return e.withKind (.register r)
  | .upvalue i => return e.withKind (.pending (← emit (.getUpvalue 0 i)))
  | .upField i k => return e.withKind (.pending (← emit (.getUpvalueField 0 i k)))
  | .item t n =>
      freeRegister t
      return e.withKind (.pending (← emit (.getItem 0 t n)))
  | .field t k =>
      freeRegister t
      return e.withKind (.pending (← emit (.getField 0 t k)))
  | .element t key =>
      freeRegisters t key
      return e.withKind (.pending (← emit (.getTable 0 t key)))
  | .call _ | .vararg _ => oneResult e
  | _ => return e

/-- Put a value into a register; jumps are left as they are. -/
def load (e : Expr) (r : Nat) : Parse Expr := do
  let e ← fetch e
  let loaded := e.withKind (.register r)
  match e.kind with
  | .nil => emitNil r 1
  | .false => emit_ (.loadFalse r)
  | .true => emit_ (.loadTrue r)
  | .str bytes => emitConstant r (← constant (.str bytes))
  | .constant k => emitConstant r k
  | .num x => emitFloat r x
  | .int n => emitInt r n
  | .pending place => modifyInstr place (·.withTarget r)
  | .register s => if r ≠ s then emit_ (.move r s)
  | _ => pure ()
  match e.kind with
  | .jump _ => return e
  | _ => return loaded

/-- Put a value into some register; jumps are left as they are. -/
def loadAnywhere (e : Expr) : Parse Expr := do
  match e.kind with
  | .register _ => return e
  | _ =>
      takeRegisters 1
      load e ((← scope).free - 1)

/-- Put the value of an expression with its jumps into a register. -/
def toRegister (e : Expr) (r : Nat) : Parse Expr := do
  let e ← load e r
  let (e, isJump) := match e.kind with
    | .jump place => ({ e with onTrue := e.onTrue ++ [place] }, true)
    | _ => (e, false)
  if e.hasJumps then
    let mut ifFalse := 0
    let mut ifTrue := 0
    if (← needValue e.onTrue) || (← needValue e.onFalse) then
      let around : List Nat ← if isJump then pure [] else pure [← jump]
      let _ ← mark
      ifFalse ← emit (.loadFalseSkip r)
      let _ ← mark
      ifTrue ← emit (.loadTrue r)
      patchHere around
    let last ← mark
    patchEach last (some r) ifFalse e.onFalse
    patchEach last (some r) ifTrue e.onTrue
  return .of (.register r)

/-- Put the value of an expression into the next register. -/
def toNextRegister (e : Expr) : Parse Expr := do
  let e ← fetch e
  freeExpr e
  takeRegisters 1
  toRegister e ((← scope).free - 1)

/-- Put the value of an expression into some register, and answer which. -/
def toAnyRegister (e : Expr) : Parse (Nat × Expr) := do
  let e ← fetch e
  let next : Parse (Nat × Expr) := do
    let e ← toNextRegister e
    return ((← scope).free - 1, e)
  match e.kind with
  | .register r =>
      if !e.hasJumps then return (r, e)
      else if (← scope).level ≤ r then return (r, ← toRegister e r)
      else next
  | _ => next

/-- The same, but an upvalue can stay where it is. -/
def toAnyRegisterOrUpvalue (e : Expr) : Parse Expr := do
  match e.kind with
  | .upvalue _ => if e.hasJumps then return (← toAnyRegister e).2 else return e
  | _ => return (← toAnyRegister e).2

/-- Put an expression into a register or let it be a constant. -/
def toValue (e : Expr) : Parse Expr := do
  match e.kind with
  | .jump _ => return (← toAnyRegister e).2
  | _ => if e.hasJumps then return (← toAnyRegister e).2 else fetch e

/-! ## Constants as operands -/

/-- The greatest number that a short operand can be. -/
def maxShortOperand : Nat := 255

/-- The number of the constant that an expression is, if that can stand in an instruction. -/
def constantOperand? (e : Expr) : Parse (Option Nat) := do
  if e.hasJumps then return none
  let k? : Option Nat ← match e.kind with
    | .true => some <$> constant (.bool true)
    | .false => some <$> constant (.bool false)
    | .nil => some <$> constant .nil
    | .int n => some <$> constant (.int n)
    | .num x => some <$> constant (.num x)
    | .str bytes => some <$> constant (.str bytes)
    | .constant k => pure (some k)
    | _ => pure none
  return k?.filter (· ≤ maxShortOperand)

/-- An expression as a constant or a register. -/
def toArg (e : Expr) : Parse (Arg × Expr) := do
  match ← constantOperand? e with
  | some k => return (.constant k, e.withKind (.constant k))
  | none =>
      let (r, e) ← toAnyRegister e
      return (.register r, e)

/-! ## Fields -/

/-- How long the strings are that are kept only once. -/
def maxShortString : Nat := 40

/-- The number of the constant string that an expression is, if it can be a field's name in
an instruction. -/
def fieldName? (e : Expr) : Parse (Option Nat) := do
  match e.kind with
  | .constant k =>
      if e.hasJumps || maxShortOperand < k then return none
      match ← ofScope fun f => (f.constants[k]?).getD .nil with
      | .str bytes => return if bytes.size ≤ maxShortString then some k else none
      | _ => return none
  | _ => return none

/-- The field of a table with a key. The table is in a register or an upvalue. -/
def indexed (t key : Expr) : Parse Expr := do
  let key ← match key.kind with
    | .str bytes => pure (key.withKind (.constant (← constant (.str bytes))))
    | _ => pure key
  let name? ← fieldName? key
  let t ← match t.kind with
    | .upvalue _ => if name?.isNone then pure (← toAnyRegister t).2 else pure t
    | _ => pure t
  let ofRegister (r : Nat) : Parse Expr := do
    match name? with
    | some k => return t.withKind (.field r k)
    | none =>
        let small? : Option Nat := match key.numeral? with
          | some (.int n) => if 0 ≤ n.toInt && n.toInt ≤ maxShortOperand then some n.toInt.toNat else none
          | _ => none
        match small? with
        | some n => return t.withKind (.item r n)
        | none => return t.withKind (.element r (← toAnyRegister key).1)
  match t.kind with
  | .upvalue i => return t.withKind (.upField i (name?.getD 0))
  | .variable r _ => ofRegister r
  | .register r => ofRegister r
  | _ => return t

/-- Store an expression into a variable or a field. -/
def store (target value : Expr) : Parse Unit := do
  match target.kind with
  | .variable r _ =>
      freeExpr value
      let _ ← toRegister value r
  | .upvalue i =>
      let (r, value) ← toAnyRegister value
      emit_ (.setUpvalue r i)
      freeExpr value
  | .upField i k =>
      let (v, value) ← toArg value
      emit_ (.setUpvalueField i k v)
      freeExpr value
  | .item t n =>
      let (v, value) ← toArg value
      emit_ (.setItem t n v)
      freeExpr value
  | .field t k =>
      let (v, value) ← toArg value
      emit_ (.setField t k v)
      freeExpr value
  | .element t key =>
      let (v, value) ← toArg value
      emit_ (.setTable t key v)
      freeExpr value
  | _ => return ()

/-- Prepare the call of a method: the function and its object go into the next two
registers. -/
def method (e key : Expr) : Parse Expr := do
  let (r, e) ← toAnyRegister e
  freeExpr e
  let base := (← scope).free
  takeRegisters 2
  let (name, key) ← toArg key
  emit_ (.method base r name)
  freeExpr key
  return e.withKind (.register base)

/-! ## Conditions -/

/-- Jump if the truth of an expression is this. -/
def jumpIf (e : Expr) (truth : Bool) : Parse Nat := do
  let negated? : Option Nat ← match e.kind with
    | .pending place => match ← instrAt place with
      | .unary .not _ b => pure (some b)
      | _ => pure none
    | _ => pure none
  match negated? with
  | some b =>
      removeLast
      emitTest (.test b !truth)
  | none =>
      let e ← loadAnywhere e
      freeExpr e
      let r := match e.kind with
        | .register r => r
        | _ => 0
      emitTest (.testSet maxRegisters r truth)

/-- Turn the test before a jump round. -/
def negateTest (place : Nat) : Parse Unit := do
  modifyInstr (← controlOf place) Instr.negated

/-- Go on if an expression is true, and jump if it is false. -/
def goIfTrue (e : Expr) : Parse Expr := do
  let e ← fetch e
  let places : List Nat ← match e.kind with
    | .jump place =>
        negateTest place
        pure [place]
    | .constant _ | .num _ | .int _ | .str _ | .true => pure []
    | _ => pure [← jumpIf e false]
  patchHere e.onTrue
  return ⟨e.kind, [], e.onFalse ++ places⟩

/-- Go on if an expression is false, and jump if it is true. -/
def goIfFalse (e : Expr) : Parse Expr := do
  let e ← fetch e
  let places : List Nat ← match e.kind with
    | .jump place => pure [place]
    | .nil | .false => pure []
    | _ => pure [← jumpIf e true]
  patchHere e.onFalse
  return ⟨e.kind, e.onTrue ++ places, []⟩

end Parse

end LuaShell.Lua
