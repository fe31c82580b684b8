import LuaShell.Lua.Arithmetic
import LuaShell.Lua.Operand

/-!
# Operations

The code of operators.  An operation on numbers that are known is carried out while
reading, unless the answer would be zero, no number, or an error.  A known operand is
moved to the right where that does not matter, so that it can stand in the
instruction; what a metatable is asked then says that the operands are the other way
round.
-/

namespace LuaShell.Lua

/-- Operators between two operands. -/
inductive InfixOp where
  | arith (op : ArithOp)
  | concat
  | equal
  | notEqual
  | less
  | lessEqual
  | greater
  | greaterEqual
  | and
  | or
  deriving DecidableEq

namespace InfixOp

/-- How tightly an operator binds to the left and to the right. -/
def binding : InfixOp → Nat × Nat
  | .arith .add | .arith .sub => (10, 10)
  | .arith .mul | .arith .mod | .arith .div | .arith .idiv => (11, 11)
  | .arith .pow => (14, 13)
  | .arith .band => (6, 6)
  | .arith .bor => (4, 4)
  | .arith .bxor => (5, 5)
  | .arith .shl | .arith .shr => (7, 7)
  | .concat => (9, 8)
  | .equal | .notEqual | .less | .lessEqual | .greater | .greaterEqual => (3, 3)
  | .and => (2, 2)
  | .or => (1, 1)

/-- The operator of a token. -/
def ofToken? : Token → Option InfixOp
  | .symbol s => ([("+", .arith .add), ("-", .arith .sub), ("*", .arith .mul),
      ("%", .arith .mod), ("^", .arith .pow), ("/", .arith .div), ("//", .arith .idiv),
      ("&", .arith .band), ("|", .arith .bor), ("~", .arith .bxor), ("<<", .arith .shl),
      (">>", .arith .shr), ("..", .concat), ("==", .equal), ("~=", .notEqual), ("<", .less),
      ("<=", .lessEqual), (">", .greater), (">=", .greaterEqual), ("and", .and),
      ("or", .or)] : List (String × InfixOp)).lookup s
  | _ => none

end InfixOp

namespace UnaryOp

/-- How tightly operators with one operand bind. -/
def binding : Nat := 12

/-- The operator of a token. -/
def ofToken? : Token → Option UnaryOp
  | .symbol "not" => some .not
  | .symbol "-" => some .neg
  | .symbol "~" => some .bnot
  | .symbol "#" => some .len
  | _ => none

end UnaryOp

namespace Parse

/-! ## Operations that are carried out at once -/

/-- A number that can stand for the operation that yields it. -/
def folded? : Except ArithmeticFault Value → Option Operand
  | .ok (.int n) => some (.int n)
  | .ok (.num x) => if x.isNaN || x == 0 then none else some (.num x)
  | _ => none

/-- The number that an operation yields. -/
def fold? (op : ArithOp) (a b : Expr) : Option Operand :=
  match a.numeral?, b.numeral? with
  | some x, some y =>
      let divides := match op with
        | .div | .idiv | .mod => true
        | _ => false
      if divides && y.toFloat?.any (· == 0) then none
      else folded? (Arithmetic.binary op x y)
  | _, _ => none

/-- The number that an operation on one number yields. -/
def foldUnary? (op : UnaryOp) (a : Expr) : Option Operand :=
  match op, a.numeral? with
  | .neg, some x => folded? (Arithmetic.negate x)
  | .bnot, some x => folded? (Arithmetic.complement x)
  | _, _ => none

/-! ## Operations with one operand -/

/-- Turn the truth of an expression round. -/
def negateExpr (e : Expr) : Parse Expr := do
  let kind : Operand ← match e.kind with
    | .nil | .false => pure .true
    | .constant _ | .num _ | .int _ | .str _ | .true => pure .false
    | .jump place =>
        negateTest place
        pure (.jump place)
    | .pending _ | .register _ =>
        let e ← loadAnywhere e
        freeExpr e
        match e.kind with
        | .register r => pure (.pending (← emit (.unary .not 0 r)))
        | k => pure k
    | k => pure k
  let e : Expr := ⟨kind, e.onFalse, e.onTrue⟩
  dropValues e.onFalse
  dropValues e.onTrue
  return e

/-- An operator with one operand. -/
def unaryExpr (op : UnaryOp) (e : Expr) (line : Nat) : Parse Expr := do
  let e ← fetch e
  match op with
  | .not => negateExpr e
  | op => match foldUnary? op e with
    | some kind => return e.withKind kind
    | none =>
        let (r, e) ← toAnyRegister e
        freeExpr e
        let place ← emit (.unary op 0 r)
        fixLine line
        return e.withKind (.pending place)

/-! ## Operations on numbers -/

/-- Write an operation and the question to metatables that follows it. -/
def emitArith (a b : Expr) (line : Nat) (operation : Nat → Instr) (question : Nat → Instr) :
    Parse Expr := do
  let (r, a) ← toAnyRegister a
  let place ← emit (operation r)
  freeExprs a b
  fixLine line
  emit_ (question r)
  fixLine line
  return a.withKind (.pending place)

/-- An operation on two registers. -/
def emitOnRegisters (op : ArithOp) (a b : Expr) (line : Nat) : Parse Expr := do
  let (r, b) ← toAnyRegister b
  emitArith a b line (.arith op 0 · r) (.ask · r (.arith op))

/-- An operation whose second operand is negated, such as the subtraction of a small
integer. -/
def emitNegated? (a b : Expr) (line : Nat) (operation : Nat → Int → Instr) (op : ArithOp) :
    Parse (Option Expr) := do
  match b.numeral? with
  | some (.int n) =>
      let n := n.toInt
      if Expr.fitsShort n && Expr.fitsShort (-n) then
        return some (← emitArith a b line (operation · (-n)) (.askInt · n (.arith op) false))
      else return none
  | _ => return none

/-- An operation on a register and a constant, or on two registers. -/
def emitOnConstant (op : ArithOp) (a b : Expr) (isFlipped isNumeral : Bool) (line : Nat) :
    Parse Expr := do
  let k? ← if isNumeral then constantOperand? b else pure none
  match k? with
  | some k =>
      emitArith a (b.withKind (.constant k)) line (.arithConst op 0 · k)
        (.askConst · k (.arith op) isFlipped)
  | none => if isFlipped then emitOnRegisters op b a line else emitOnRegisters op a b line

/-- An operation on numbers. -/
def emitArithmetic (op : ArithOp) (a b : Expr) (line : Nat) : Parse Expr := do
  match op with
  | .add | .mul =>
      let isFlipped := a.numeral?.isSome
      let (a, b) := if isFlipped then (b, a) else (a, b)
      match op, b.shortInt? with
      | .add, some n => emitArith a b line (.addInt 0 · n) (.askInt · n (.arith .add) isFlipped)
      | _, _ => emitOnConstant op a b isFlipped b.numeral?.isSome line
  | .sub => match ← emitNegated? a b line (.addInt 0) .sub with
    | some e => return e
    | none => emitOnConstant op a b false b.numeral?.isSome line
  | .div | .idiv | .mod | .pow => emitOnConstant op a b false b.numeral?.isSome line
  | .band | .bor | .bxor =>
      let isInt (e : Expr) : Bool := match e.kind with
        | .int _ => true
        | _ => false
      let isFlipped := isInt a
      let (a, b) := if isFlipped then (b, a) else (a, b)
      emitOnConstant op a b isFlipped (isInt b) line
  | .shl => match a.shortInt? with
    | some n => emitArith b a line (.shiftLeftInt 0 · n) (.askInt · n (.arith .shl) true)
    | none => match ← emitNegated? a b line (.shiftRightInt 0) .shl with
      | some e => return e
      | none => emitOnRegisters .shl a b line
  | .shr => match b.shortInt? with
    | some n => emitArith a b line (.shiftRightInt 0 · n) (.askInt · n (.arith .shr) false)
    | none => emitOnRegisters .shr a b line

/-! ## Other operations -/

/-- Put two expressions together. A chain is one instruction. -/
def emitConcat (a b : Expr) (line : Nat) : Parse Expr := do
  let r := match a.kind with
    | .register r => r
    | _ => 0
  match ← previous? with
  | some (.concat _ n) =>
      freeExpr b
      modifyInstr ((← here) - 1) fun _ => .concat r (n + 1)
  | _ =>
      emit_ (.concat r 2)
      freeExpr b
      fixLine line
  return a

/-- Compare whether two expressions are equal. -/
def emitEqual (a b : Expr) (outcome : Bool) : Parse Expr := do
  let isFirst := match a.kind with
    | .register _ => true
    | _ => false
  let (a, b) := if isFirst then (a, b) else (b, a)
  let (r, a) ← toAnyRegister a
  let (i, b) ← match b.shortNumber? with
    | some (n, isFloat) => pure (Instr.equalInt r n isFloat outcome, b)
    | none => match ← toArg b with
      | (.constant k, b) => pure (Instr.equalConst r k outcome, b)
      | (.register s, b) => pure (Instr.compare .eq r s outcome, b)
  freeExprs a b
  return a.withKind (.jump (← emitTest i))

/-- Compare which of two expressions is less. -/
def emitOrder (orEqual : Bool) (a b : Expr) : Parse Expr := do
  let (i, a, b) ← match b.shortNumber? with
    | some (n, isFloat) => do
        let (r, a) ← toAnyRegister a
        pure ((if orEqual then Instr.lessEqualInt else Instr.lessInt) r n isFloat true, a, b)
    | none => match a.shortNumber? with
      | some (n, isFloat) => do
          let (r, b) ← toAnyRegister b
          pure ((if orEqual then Instr.greaterEqualInt else Instr.greaterInt) r n isFloat true, a, b)
      | none => do
          let (r, a) ← toAnyRegister a
          let (s, b) ← toAnyRegister b
          pure (Instr.compare (if orEqual then .le else .lt) r s true, a, b)
  freeExprs a b
  return a.withKind (.jump (← emitTest i))

/-- What is done with the first operand before the second one is read. -/
def beforeSecond (op : InfixOp) (e : Expr) : Parse Expr := do
  let e ← fetch e
  match op with
  | .and => goIfTrue e
  | .or => goIfFalse e
  | .concat => toNextRegister e
  | .arith _ => if e.numeral?.isSome then return e else return (← toAnyRegister e).2
  | .equal | .notEqual => if e.numeral?.isSome then return e else return (← toArg e).2
  | _ => if e.shortNumber?.isSome then return e else return (← toAnyRegister e).2

/-- An operator with both operands. -/
def binaryExpr (op : InfixOp) (a b : Expr) (line : Nat) : Parse Expr := do
  let b ← fetch b
  match op with
  | .and => return { b with onFalse := b.onFalse ++ a.onFalse }
  | .or => return { b with onTrue := b.onTrue ++ a.onTrue }
  | .concat => emitConcat a (← toNextRegister b) line
  | .arith op => match fold? op a b with
    | some kind => return a.withKind kind
    | none => emitArithmetic op a b line
  | .equal => emitEqual a b true
  | .notEqual => emitEqual a b false
  | .less => emitOrder false a b
  | .lessEqual => emitOrder true a b
  | .greater => emitOrder false b a
  | .greaterEqual => emitOrder true b a

end Parse

end LuaShell.Lua
