import LuaShell.Lua.Operation
import LuaShell.Lua.Scope

/-!
# The grammar of Lua

Reading a source as a chunk, in one pass from left to right, so that of two faults
the first one is met.  Expressions and statements contain each other; how deeply is
bounded, and the rules are built up to that depth.
-/

namespace LuaShell.Lua

/-- The rules that other rules call. -/
structure Rules where
  /-- An expression whose operators bind more tightly than a limit, and the operator that
  follows it. -/
  expression : Nat → Parse (Expr × Option InfixOp)
  /-- A statement. -/
  statement : Parse Unit

namespace Rules

variable (r : Rules)

/-! ## Expressions -/

/-- An expression. -/
def anyExpr : Parse Expr := return (← r.expression 0).1

/-- Expressions with commas between them; all but the last one are put into registers.
Answers how many there are. -/
def exprList : Parse (Nat × Expr) := do
  Parse.whileSaid (fun (count, e) => do
    if ← Parse.accept "," then
      let _ ← Parse.toNextRegister e
      return ((count + 1, ← r.anyExpr), true)
    return ((count, e), false)) (1, ← r.anyExpr)

/-- Whether a block ends here. An `until` is the end of some blocks only. -/
def endsBlock (withUntil : Bool) : Parse Bool := do
  match ← Parse.token with
  | .eof => return true
  | .symbol "else" | .symbol "elseif" | .symbol "end" => return true
  | .symbol "until" => return withUntil
  | _ => return false

/-- The statements of a block; nothing follows a `return`. -/
def statements : Parse Unit :=
  Parse.whileSaid (fun _ => do
    if ← endsBlock true then return ((), false)
    let isReturn ← Parse.isAt "return"
    r.statement
    return ((), !isReturn)) ()

/-- A key in brackets. -/
def bracketKey : Parse Expr := do
  Parse.advance
  let key ← Parse.toValue (← r.anyExpr)
  Parse.expect "]"
  return key

/-- A name as the key of a field. -/
def nameKey : Parse Expr := do
  return .of (.str (← Parse.takeName).toUTF8)

/-! ## Tables -/

/-- A table that is being read: an item that has not been stored, how many were stored, how
many registers wait to be stored, and how many fields there are. -/
structure TableItems where
  last : Expr
  stored : Nat
  waiting : Nat
  fields : Nat

/-- How many items are stored at a time. -/
def maxWaiting : Nat := 50

/-- Write the instruction that stores items; none for the count stands for all. -/
def emitItems (t items : Nat) (count : Option Nat) : Parse Unit := do
  let isMore := Parse.maxShortOperand < items
  Parse.emit_ (.setList t (count.getD 0) items isMore)
  if isMore then Parse.emit_ (.extra (items / (Parse.maxShortOperand + 1)))
  Parse.modifyScope fun f => { f with free := t + 1 }

/-- Put the last item into a register, and store the items if there are many. -/
def settleItem (t : Nat) (c : TableItems) : Parse TableItems := do
  match c.last.kind with
  | .void => return c
  | _ =>
      let _ ← Parse.toNextRegister c.last
      let c := { c with last := .of .void }
      if c.waiting = maxWaiting then
        emitItems t c.stored (some c.waiting)
        return { c with stored := c.stored + c.waiting, waiting := 0 }
      return c

/-- A field with a key. -/
def keyedField (t : Nat) : Parse Unit := do
  let free ← Parse.ofScope (·.free)
  let key ← match ← Parse.token with
    | .name _ => nameKey
    | _ => r.bracketKey
  Parse.expect "="
  let target ← Parse.indexed (.of (.register t)) key
  Parse.store target (← r.anyExpr)
  Parse.modifyScope fun f => { f with free := free }

/-- A field or an item. -/
def tableEntry (t : Nat) (c : TableItems) : Parse TableItems := do
  let keyed : Parse TableItems := do
    r.keyedField t
    return { c with fields := c.fields + 1 }
  let item : Parse TableItems := do
    return { c with last := ← r.anyExpr, waiting := c.waiting + 1 }
  match ← Parse.token with
  | .name _ => match ← Parse.peek with
    | .symbol "=" => keyed
    | _ => item
  | .symbol "[" => keyed
  | _ => item

/-- Store the items that are left. Answers how many there are in all. -/
def lastItems (t : Nat) (c : TableItems) : Parse Nat := do
  if c.waiting = 0 then return c.stored
  if c.last.kind.isOpen then
    Parse.openResults c.last none
    emitItems t c.stored none
    return c.stored + c.waiting - 1
  match c.last.kind with
  | .void => pure ()
  | _ => let _ ← Parse.toNextRegister c.last
  emitItems t c.stored (some c.waiting)
  return c.stored + c.waiting

/-- A table constructor. -/
def tableConstructor : Parse Expr := do
  let line ← Parse.line
  let place ← Parse.emit (.newTable 0 0 0 false)
  Parse.emit_ (.extra 0)
  let t ← Parse.ofScope (·.free)
  Parse.takeRegisters 1
  Parse.expect "\x7b"
  let c ← Parse.whileSaid (fun c => do
    if ← Parse.isAt "\x7d" then return (c, false)
    let c ← r.tableEntry t (← settleItem t c)
    if ← Parse.accept "," then return (c, true)
    return (c, ← Parse.accept ";")) ⟨.of .void, 0, 0, 0⟩
  Parse.expectMatch "\x7d" "\x7b" line
  let items ← lastItems t c
  let share := Parse.maxShortOperand + 1
  Parse.modifyInstr place fun _ => .newTable t c.fields items (share ≤ items)
  Parse.modifyInstr (place + 1) fun _ => .extra (items / share)
  return .of (.register t)

/-! ## Functions -/

/-- Say that the function has extra arguments. -/
def setVararg (parameters : Nat) : Parse Unit := do
  Parse.modifyScope fun f => { f with isVararg := true }
  Parse.emit_ (.varargPrepare parameters)

/-- The parameters of a function. -/
def parameters : Parse Unit := do
  let (count, isVararg) ← if ← Parse.isAt ")" then pure (0, false) else
    Parse.whileSaid (fun (count, _) => do
      match ← Parse.token with
      | .name name =>
          Parse.advance
          let _ ← Parse.declare name .plain
          return ((count + 1, false), ← Parse.accept ",")
      | .symbol "..." =>
          Parse.advance
          return ((count, true), false)
      | _ => Parse.fail "<name> or '...' expected") (0, false)
  Parse.activate count
  Parse.modifyScope fun f => { f with parameters := f.active }
  let active ← Parse.ofScope (·.active)
  if isVararg then setVararg active
  Parse.takeRegisters active

/-- Begin a function inside the innermost one. -/
def openFunction (line : Nat) : Parse Unit := do
  modify fun s => { s with functions := { (default : FunctionScope) with line := line } :: s.functions }
  Parse.openBlock false

/-- End the innermost function. -/
def closeFunction : Parse FunctionScope := do
  Parse.emitReturn (← Parse.ofScope (·.level)) (some 0)
  let _ ← Parse.closeBlock
  let f ← Parse.scope
  modify fun s => { s with functions := s.functions.tail }
  return { f with code := f.finishedCode }

/-- A function as it is kept. -/
def toProto (f : FunctionScope) : Proto where
  parameters := f.parameters
  isVararg := f.isVararg
  registers := f.registers
  code := f.code
  constants := f.constants
  upvalues := f.upvalues
  protos := f.protos
  lines := f.lines
  locals := f.names
  source := none
  line := f.line
  lastLine := f.lastLine

/-- The parameters and the body of a function that begins at a line. A method has itself for
its first parameter. -/
def functionBody (isMethod : Bool) (line : Nat) : Parse Expr := do
  openFunction line
  Parse.expect "("
  if isMethod then
    let _ ← Parse.declare "self" .plain
    Parse.activate 1
  parameters
  Parse.expect ")"
  r.statements
  let last ← Parse.line
  Parse.modifyScope fun f => { f with lastLine := last }
  Parse.expectMatch "end" "function" line
  let f ← closeFunction
  Parse.modifyScope fun g => { g with protos := g.protos.push (toProto f) }
  let count ← Parse.ofScope (·.protos.size)
  Parse.toNextRegister (.of (.pending (← Parse.emit (.closure 0 (count - 1)))))

/-! ## Calls -/

/-- The arguments of a call, and the call itself; the function is in a register. -/
def callArguments (e : Expr) : Parse Expr := do
  let line ← Parse.line
  let args : Expr ← match ← Parse.token with
    | .symbol "(" => do
        Parse.advance
        let args ← if ← Parse.isAt ")" then pure (Expr.of .void) else do
          let (_, args) ← r.exprList
          if args.kind.isOpen then Parse.openResults args none
          pure args
        Parse.expectMatch ")" "(" line
        pure args
    | .symbol "\x7b" => r.tableConstructor
    | .string bytes _ => do
        Parse.advance
        pure (Expr.of (.str ⟨bytes.toArray⟩))
    | _ => Parse.fail "function arguments expected"
  let base := match e.kind with
    | .register r => r
    | _ => 0
  let count ← if args.kind.isOpen then pure 0 else do
    match args.kind with
    | .void => pure ()
    | _ => let _ ← Parse.toNextRegister args
    pure ((← Parse.ofScope (·.free)) - base)
  let place ← Parse.emit (.call base count 2)
  Parse.fixLine line
  Parse.modifyScope fun f => { f with free := base + 1 }
  return .of (.call place)

/-- A name or an expression in parentheses. -/
def primary : Parse Expr := do
  match ← Parse.token with
  | .name name =>
      Parse.advance
      Parse.named name
  | .symbol "(" =>
      let line ← Parse.line
      Parse.advance
      let e ← r.anyExpr
      Parse.expectMatch ")" "(" line
      Parse.fetch e
  | _ => Parse.fail "unexpected symbol"

/-- A field by a name after a point or a colon. -/
def namedField (e : Expr) : Parse Expr := do
  let e ← Parse.toAnyRegisterOrUpvalue e
  Parse.advance
  Parse.indexed e (← nameKey)

/-- A name or an expression in parentheses, with fields and calls after it. -/
def suffixed : Parse Expr := do
  Parse.whileSaid (fun e => do
    match ← Parse.token with
    | .symbol "." => return (← namedField e, true)
    | .symbol "[" =>
        let e ← Parse.toAnyRegisterOrUpvalue e
        return (← Parse.indexed e (← r.bracketKey), true)
    | .symbol ":" =>
        Parse.advance
        let name ← nameKey
        return (← r.callArguments (← Parse.method e name), true)
    | .symbol "(" | .symbol "\x7b" | .string .. =>
        return (← r.callArguments (← Parse.toNextRegister e), true)
    | _ => return (e, false)) (← r.primary)

/-! ## Operators -/

/-- An operand. -/
def operand : Parse Expr := do
  let taken (kind : Operand) : Parse Expr := do
    Parse.advance
    return .of kind
  match ← Parse.token with
  | .num x _ => taken (.num x)
  | .int n _ => taken (.int n)
  | .string bytes _ => taken (.str ⟨bytes.toArray⟩)
  | .symbol "nil" => taken .nil
  | .symbol "true" => taken .true
  | .symbol "false" => taken .false
  | .symbol "..." =>
      if !(← Parse.ofScope (·.isVararg)) then
        Parse.fail "cannot use '...' outside a vararg function"
      taken (.vararg (← Parse.emit (.vararg 0 1)))
  | .symbol "\x7b" => r.tableConstructor
  | .symbol "function" =>
      Parse.advance
      r.functionBody false (← Parse.line)
  | _ => r.suffixed

/-- An expression whose operators bind more tightly than a limit. -/
def expressionStep (limit : Nat) : Parse (Expr × Option InfixOp) := Parse.nested do
  let e ← match UnaryOp.ofToken? (← Parse.token) with
    | some op => do
        let line ← Parse.line
        Parse.advance
        let (e, _) ← r.expression UnaryOp.binding
        Parse.unaryExpr op e line
    | none => r.operand
  Parse.whileSaid (fun (e, op?) => do
    match op? with
    | some op =>
        if op.binding.1 ≤ limit then return ((e, op?), false)
        let line ← Parse.line
        Parse.advance
        let e ← Parse.beforeSecond op e
        let (second, next?) ← r.expression op.binding.2
        return ((← Parse.binaryExpr op e second line, next?), true)
    | none => return ((e, none), false)) (e, InfixOp.ofToken? (← Parse.token))

/-! ## Assignments -/

/-- Let so many variables have the values of so many expressions, the last of which has not
been put into a register. -/
def adjust (wanted count : Nat) (last : Expr) : Parse Unit := do
  if last.kind.isOpen then
    Parse.openResults last (some (wanted + 1 - count))
  else
    match last.kind with
    | .void => pure ()
    | _ => let _ ← Parse.toNextRegister last
    if count < wanted then
      Parse.emitNil (← Parse.ofScope (·.free)) (wanted - count)
  if count < wanted then Parse.takeRegisters (wanted - count)
  else Parse.modifyScope fun f => { f with free := f.free - (count - wanted) }

/-- A field that would be found by a variable which is about to change; it uses a copy in
another register then. Answers whether it does. -/
def avoid (changed : Operand) (copy : Nat) (target : Expr) : Expr × Bool :=
  match changed, target.kind with
  | .upvalue i, .upField j k =>
      if i = j then (target.withKind (.field copy k), true) else (target, false)
  | .variable r _, .item t n =>
      if t = r then (target.withKind (.item copy n), true) else (target, false)
  | .variable r _, .field t k =>
      if t = r then (target.withKind (.field copy k), true) else (target, false)
  | .variable r _, .element t key =>
      (target.withKind (.element (if t = r then copy else t) (if key = r then copy else key)),
        t = r || key = r)
  | _, _ => (target, false)

/-- See to it that assigning to a variable does not disturb the targets before it. -/
def avoidConflict (changed : Operand) (targets : List Expr) : Parse (List Expr) := do
  if changed.isIndexed then return targets
  let copy ← Parse.ofScope (·.free)
  let avoided := targets.map (avoid changed copy)
  if avoided.any (·.2) then
    match changed with
    | .variable r _ => Parse.emit_ (.move copy r)
    | .upvalue i => Parse.emit_ (.getUpvalue copy i)
    | _ => pure ()
    Parse.takeRegisters 1
  return avoided.map (·.1)

/-- Store the value in the last register into a target. -/
def storeLast (target : Expr) : Parse Unit := do
  let free ← Parse.ofScope (·.free)
  Parse.store target (.of (.register (free - 1)))

/-- What follows the targets of an assignment, the last one first. The first one that is
answered has still to be stored. -/
def assignment : Nat → List Expr → Parse (List Expr)
  | _, [] => return []
  | n, target :: before => do
      if !target.kind.isTarget then Parse.fail "syntax error"
      Parse.checkAssignable target
      if ← Parse.accept "," then
        match n with
        | 0 => return []
        | n + 1 =>
            let next ← r.suffixed
            let targets ← avoidConflict next.kind (target :: before)
            match ← Parse.nested (assignment n (next :: targets)) with
            | target :: before =>
                storeLast target
                return before
            | [] => return []
      else
        Parse.expect "="
        let wanted := before.length + 1
        let (count, last) ← r.exprList
        if count = wanted then
          Parse.store target (← Parse.oneResult last)
        else
          adjust wanted count last
          storeLast target
        return before

/-- A call or an assignment. -/
def exprStatement : Parse Unit := do
  let e ← r.suffixed
  if (← Parse.isAt "=") || (← Parse.isAt ",") then
    let _ ← r.assignment Parse.maxLevel [e]
  else match e.kind with
    | .call place => Parse.modifyInstr place (·.withResults 1)
    | _ => Parse.fail "syntax error"

/-! ## Local variables -/

/-- What stands after the name of a variable about its role. -/
def roleMark : Parse VarRole := do
  if ← Parse.accept "<" then
    let name ← Parse.takeName
    Parse.expect ">"
    match name with
    | "const" => return .const
    | "close" => return .close
    | _ => Parse.failMeaning s!"unknown attribute '{name}'"
  return .plain

/-- The names of a declaration: how many there are, which variable has to be closed, and the
role of the last one. -/
def localNames : Parse (Nat × Option Nat × VarRole) :=
  Parse.whileSaid (fun (count, toClose?, _) => do
    let number ← Parse.declare (← Parse.takeName) .plain
    let role ← roleMark
    Parse.setRole number role
    let mut toClose := toClose?
    if role = .close then
      if toClose?.isSome then
        Parse.failMeaning "multiple to-be-closed variables in local list"
      toClose := some number
    return ((count + 1, toClose, role), ← Parse.accept ",")) (0, none, .plain)

def localStatement : Parse Unit := do
  let (wanted, toClose?, role) ← localNames
  let (count, last) ← if ← Parse.accept "=" then r.exprList else pure (0, .of .void)
  let known? := if wanted = count && role = .const then last.known? else none
  match known? with
  | some v =>
      Parse.activate (wanted - 1)
      Parse.activateKnown v
  | none =>
      adjust wanted count last
      Parse.activate wanted
  if let some number := toClose? then
    Parse.markClose
    Parse.emit_ (.toClose (← Parse.ofScope (·.levelOf number)))

def localFunction : Parse Unit := do
  let number ← Parse.declare (← Parse.takeName) .plain
  Parse.activate 1
  let _ ← r.functionBody false (← Parse.line)
  Parse.modifyScope fun f => match ((f.vars[number]?).getD default).entry with
    | some i => { f with names := f.names.modify i fun n => { n with start := f.code.size } }
    | none => f

/-! ## Control -/

/-- A block. -/
def block : Parse Unit := Parse.inBlock false r.statements

/-- A condition; answers the jumps for when it is false. -/
def condition : Parse (List Nat) := do
  let e ← r.anyExpr
  let e := match e.kind with
    | .nil => e.withKind .false
    | _ => e
  return (← Parse.goIfTrue e).onFalse

/-- Jump back. -/
def jumpBack (target : Nat) : Parse Unit := do
  Parse.patch [← Parse.jump] target

def whileStatement (line : Nat) : Parse Unit := do
  Parse.advance
  let start ← Parse.mark
  let exits ← r.condition
  Parse.openBlock true
  Parse.expect "do"
  r.block
  jumpBack start
  Parse.expectMatch "end" "while" line
  let _ ← Parse.closeBlock
  Parse.patchHere exits

def repeatStatement (line : Nat) : Parse Unit := do
  let start ← Parse.mark
  Parse.openBlock true
  Parse.openBlock false
  Parse.advance
  r.statements
  Parse.expectMatch "until" "repeat" line
  let repeats ← r.condition
  if ← Parse.closeBlock then
    let exit ← Parse.jump
    Parse.patchHere repeats
    Parse.emit_ (.close (← Parse.ofScope (·.level)))
    let again ← Parse.jump
    Parse.patchHere [exit]
    Parse.patch [again] start
  else Parse.patch repeats start
  let _ ← Parse.closeBlock

/-- How far a loop can jump. -/
def loopDistance (source target : Nat) : Parse Nat := do
  let distance := source - target
  if Parse.maxLongOperand < distance then Parse.failDistance
  return distance

/-- The body of a loop over variables. -/
def forBody (base line count : Nat) (isEach : Bool) : Parse Unit := do
  Parse.expect "do"
  let start ← Parse.emit (if isEach then .eachPrepare base 0 else .forPrepare base 0)
  Parse.openBlock false
  Parse.activate count
  Parse.takeRegisters count
  r.block
  let _ ← Parse.closeBlock
  let forth ← loopDistance (← Parse.mark) (start + 1)
  Parse.modifyInstr start fun _ => if isEach then .eachPrepare base forth else .forPrepare base forth
  if isEach then
    Parse.emit_ (.eachCall base count)
    Parse.fixLine line
  let stop ← Parse.emit (if isEach then .eachLoop base 0 else .forLoop base 0)
  let back ← loopDistance (stop + 1) (start + 1)
  Parse.modifyInstr stop fun _ => if isEach then .eachLoop base back else .forLoop base back
  Parse.fixLine line

/-- Declare variables that the loop keeps for itself. -/
def declareHidden : Nat → Parse Unit
  | 0 => return ()
  | n + 1 => do
      let _ ← Parse.declare "(for state)" .plain
      declareHidden n

/-- An expression in the next register. -/
def nextExpr : Parse Unit := do
  let _ ← Parse.toNextRegister (← r.anyExpr)

def countingLoop (name : String) (line : Nat) : Parse Unit := do
  let base ← Parse.ofScope (·.free)
  declareHidden 3
  let _ ← Parse.declare name .plain
  Parse.expect "="
  r.nextExpr
  Parse.expect ","
  r.nextExpr
  if ← Parse.accept "," then r.nextExpr
  else
    Parse.emitInt (← Parse.ofScope (·.free)) 1
    Parse.takeRegisters 1
  Parse.activate 3
  r.forBody base line 1 false

def iteratorLoop (name : String) : Parse Unit := do
  let base ← Parse.ofScope (·.free)
  declareHidden 4
  let _ ← Parse.declare name .plain
  let count ← Parse.whileSaid (fun count => do
    if ← Parse.accept "," then
      let _ ← Parse.declare (← Parse.takeName) .plain
      return (count + 1, true)
    return (count, false)) 1
  Parse.expect "in"
  let line ← Parse.line
  let (given, last) ← r.exprList
  adjust 4 given last
  Parse.activate 4
  Parse.markClose
  Parse.ensureRegisters 3
  r.forBody base line count true

def forStatement (line : Nat) : Parse Unit := Parse.inBlock true do
  Parse.advance
  let name ← Parse.takeName
  match ← Parse.token with
  | .symbol "=" => r.countingLoop name line
  | .symbol "," | .symbol "in" => r.iteratorLoop name
  | _ => Parse.fail "'=' or 'in' expected"
  Parse.expectMatch "end" "for" line

/-- A condition and what is done if it is true; answers the jumps over what is left. A block
that begins by leaving the loop is a jump itself. -/
def branch (escapes : List Nat) : Parse (List Nat) := do
  Parse.advance
  let e ← r.anyExpr
  Parse.expect "then"
  let finish (skips : List Nat) : Parse (List Nat) := do
    r.statements
    let _ ← Parse.closeBlock
    let goesOn := (← Parse.isAt "else") || (← Parse.isAt "elseif")
    let escapes ← if goesOn then pure (escapes ++ [← Parse.jump]) else pure escapes
    Parse.patchHere skips
    return escapes
  if ← Parse.isAt "break" then
    let line ← Parse.line
    let e ← Parse.goIfFalse e
    Parse.advance
    Parse.openBlock false
    Parse.noteJump none line e.onTrue
    Parse.whileSaid (fun _ => return ((), ← Parse.accept ";")) ()
    if ← endsBlock false then
      let _ ← Parse.closeBlock
      return escapes
    finish [← Parse.jump]
  else
    let e ← Parse.goIfTrue e
    Parse.openBlock false
    finish e.onFalse

def ifStatement (line : Nat) : Parse Unit := do
  let escapes ← Parse.whileSaid (fun escapes => do
    if ← Parse.isAt "elseif" then return (← r.branch escapes, true)
    return (escapes, false)) (← r.branch [])
  if ← Parse.accept "else" then r.block
  Parse.expectMatch "end" "if" line
  Parse.patchHere escapes

def gotoStatement : Parse Unit := do
  let line ← Parse.line
  let name ← Parse.takeName
  match ← Parse.findLabel? name with
  | some l =>
      if l.level < (← Parse.ofScope (·.level)) then Parse.emit_ (.close l.level)
      jumpBack l.place
  | none => Parse.noteJump (some name) line [← Parse.jump]

def labelStatement (line : Nat) : Parse Unit := do
  let name ← Parse.takeName
  Parse.expect "::"
  Parse.whileSaid (fun _ => do
    if (← Parse.isAt ";") || (← Parse.isAt "::") then
      r.statement
      return ((), true)
    return ((), false)) ()
  Parse.checkLabel name
  let _ ← Parse.putLabel (some name) line (← endsBlock false)

def returnStatement : Parse Unit := do
  let first ← Parse.ofScope (·.level)
  if (← endsBlock true) || (← Parse.isAt ";") then Parse.emitReturn first (some 0)
  else
    let (count, last) ← r.exprList
    if last.kind.isOpen then
      Parse.openResults last none
      let isInsideClose ← Parse.ofScope fun f => (f.blocks.head?).any (·.isInsideClose)
      match last.kind with
      | .call place =>
          if count = 1 && !isInsideClose then
            Parse.modifyInstr place fun
              | .call a b c => .tailCall a b c false
              | i => i
      | _ => pure ()
      Parse.emitReturn first none
    else if count = 1 then
      Parse.emitReturn (← Parse.toAnyRegister last).1 (some 1)
    else
      let _ ← Parse.toNextRegister last
      Parse.emitReturn first (some count)
  let _ ← Parse.accept ";"

/-- The name of a function, and whether it is a method. -/
def functionName : Parse (Expr × Bool) := do
  let e ← Parse.named (← Parse.takeName)
  let e ← Parse.whileSaid (fun e => do
    if ← Parse.isAt "." then return (← namedField e, true)
    return (e, false)) e
  if ← Parse.isAt ":" then return (← namedField e, true)
  return (e, false)

def functionStatement (line : Nat) : Parse Unit := do
  Parse.advance
  let (target, isMethod) ← functionName
  let body ← r.functionBody isMethod line
  Parse.checkAssignable target
  Parse.store target body
  Parse.fixLine line

/-- One statement after another kind of word. -/
def statementBody (line : Nat) : Parse Unit := do
  match ← Parse.token with
  | .symbol ";" => Parse.advance
  | .symbol "if" => r.ifStatement line
  | .symbol "while" => r.whileStatement line
  | .symbol "do" =>
      Parse.advance
      r.block
      Parse.expectMatch "end" "do" line
  | .symbol "for" => r.forStatement line
  | .symbol "repeat" => r.repeatStatement line
  | .symbol "function" => r.functionStatement line
  | .symbol "local" =>
      Parse.advance
      if ← Parse.accept "function" then r.localFunction else r.localStatement
  | .symbol "::" =>
      Parse.advance
      r.labelStatement line
  | .symbol "return" =>
      Parse.advance
      r.returnStatement
  | .symbol "break" =>
      Parse.advance
      Parse.noteJump none line [← Parse.jump]
  | .symbol "goto" =>
      Parse.advance
      gotoStatement
  | _ => r.exprStatement

/-- A statement; afterwards only variables have registers. -/
def statementStep : Parse Unit := Parse.nested do
  r.statementBody (← Parse.line)
  Parse.modifyScope fun f => { f with free := f.level }

end Rules

/-- The rules, up to a depth of expressions and statements in each other. -/
def rules : Nat → Rules
  | 0 => ⟨fun _ => throw .tooDeep, throw .tooDeep⟩
  | n + 1 =>
      { expression := fun limit s => (rules n).expressionStep limit s
        statement := fun s => (rules n).statementStep s }

/-- Read a chunk: a function with any number of arguments, whose environment is its only
upvalue. -/
def chunk (r : Rules) : Parse Proto := do
  Parse.openBlock false
  Rules.setVararg 0
  Parse.advance
  r.statements
  match ← Parse.token with
  | .eof => pure ()
  | _ => Parse.fail "<eof> expected"
  return Rules.toProto (← Rules.closeFunction)

/-- Read a source as a chunk, below so many calls that wait for it. -/
def readChunk (bytes : List UInt8) (level : Nat) : Except SyntaxFault Proto :=
  let main : FunctionScope :=
    { (default : FunctionScope) with
      upvalues := #[⟨some Parse.environment, true, 0, .plain⟩] }
  let reader : Reader := ⟨⟨bytes, 1⟩, .eof, none, 1, level, [main], ∅, bytes.length + 16⟩
  (chunk (rules (Parse.maxLevel + 1)) reader).map (·.1)

end LuaShell.Lua
