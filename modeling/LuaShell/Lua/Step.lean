import LuaShell.Lua.Reaction

/-!
# Steps of a call in code

What one instruction does to the registers of the call that is at work and to the
objects.  An instruction that needs another call puts the function and the arguments
on the stack and says so, as does one that ends this call or that fails; the machine
does the rest.
-/

namespace LuaShell.Lua

/-- What an instruction leads to. -/
inductive Step where
  | next (f : LuaFrame)
  /-- A call of what is at a place, with so many arguments after it; what becomes of its
  results; whether it stands for an operation. -/
  | call (f : LuaFrame) (base count : Nat) (deliver : Deliver) (isNested : Bool)
  | tailCall (f : LuaFrame) (base count : Nat)
  | ret (f : LuaFrame) (results : List Value)
  | fault (f : LuaFrame) (cause : Fault)
  /-- The stack would become too high. -/
  | overflow (f : LuaFrame)
  /-- The same call, made by what is on the list of calls already. -/
  | enter (base count : Nat) (deliver : Deliver) (isNested : Bool)
  /-- Results for the call that waits for them. -/
  | give (deliver : Deliver) (results : List Value)
  /-- An error looks for who catches it. -/
  | unwind (error : Value)
  /-- The thread stops; what becomes of the values that go on with it. -/
  | stop (deliver : Deliver) (values : List Value)

namespace LuaFrame

/-- The value of a register. -/
@[inline] def get (f : LuaFrame) (s : State) (r : Nat) : Value := s.slot (f.base + r)

/-- Set a register. -/
@[inline] def set (f : LuaFrame) (s : State) (r : Nat) (v : Value) : State := s.put (f.base + r) v

/-- The value of a constant. -/
@[inline] def constant (f : LuaFrame) (k : Nat) : Value := f.proto.constants.getD k .nil

/-- The value of an operand that is a register or a constant. -/
def arg (f : LuaFrame) (s : State) : Arg → Value
  | .register r => f.get s r
  | .constant k => f.constant k

/-- The cell of an upvalue. -/
def cellOf (f : LuaFrame) (i : Nat) : Nat := f.upvalues.getD i 0

/-- The place after all registers. -/
def stop (f : LuaFrame) : Nat := f.base + f.proto.registers

/-- Skip an instruction. -/
@[inline] def skip (f : LuaFrame) : LuaFrame := { f with place := f.place + 1 }

/-- Skip an instruction unless a condition has the outcome that was asked for. -/
@[inline] def decide (f : LuaFrame) (condition outcome : Bool) : LuaFrame :=
  if condition == outcome then f else f.skip

/-- Go so far. -/
def jump (f : LuaFrame) (offset : Int) : LuaFrame :=
  { f with place := ((f.place : Int) + offset).toNat }

/-- The name of an operand. -/
def nameOf (f : LuaFrame) : Origin → OperandName
  | .register r => f.proto.registerName f.current r
  | .upvalue i => some ("upvalue", f.proto.upvalueName i)
  | .elsewhere => none

end LuaFrame

/-- How much higher it can be while an overflow is handled. -/
def stackReserve : Nat := 200

/-- Room on the stack that native functions can count on. -/
def nativeRoom : Nat := 20

/-- So many values: the first ones, or with nil for those that are not there. -/
def fitTo : Nat → List Value → List Value
  | 0, _ => []
  | n + 1, [] => .nil :: fitTo n []
  | n + 1, v :: vs => v :: fitTo n vs

namespace Step

/-- Call a function for an operation: it is put on the stack at a place. -/
def callAt (f : LuaFrame) (s : State) (place : Nat) (m : Value) (arguments : List Value)
    (deliver : Deliver) : Step × State :=
  let s := (s.grow (place + arguments.length + nativeRoom)).putAll place (m :: arguments)
  (.call f place arguments.length deliver true, s)

/-- What a reaction leads to. Its value goes to a register. -/
def ofReaction (f : LuaFrame) (s : State) (r : Reaction) (target : Nat) : Step × State :=
  match r with
  | .value v => (.next f, f.set s target v)
  | .invoke m arguments | .deny m arguments =>
      callAt f s f.stop m arguments (.first (f.base + target))
  | .fault cause => (.fault f cause, s)

/-- What a comparison leads to. -/
def ofComparison (f : LuaFrame) (s : State) (r : Reaction) (outcome : Bool) : Step × State :=
  match r with
  | .value v => (.next (f.decide v.truthy outcome), s)
  | .invoke m arguments => callAt f s f.stop m arguments (.truth outcome)
  | .deny m arguments => callAt f s f.stop m arguments (.truth !outcome)
  | .fault cause => (.fault f cause, s)

/-! ## Fields -/

/-- Read a field. -/
@[inline] def index (f : LuaFrame) (s : State) (target : Nat) (object key : Value)
    (origin : Origin) : Step × State :=
  match s.index object key origin with
  | .value v => (.next f, (s.noteRead object key).put (f.base + target) v)
  | r => ofReaction f s r target

/-- Assign to a field. -/
def assign (f : LuaFrame) (s : State) (object key value : Value) (origin : Origin) :
    Step × State :=
  match s.assignTarget object key value origin with
  | .inl id => (.next f, s.modifyTable id (·.set key value))
  | .inr (.invoke m arguments) => callAt f s f.stop m arguments .discard
  | .inr (.fault cause) => (.fault f cause, s)
  | .inr _ => (.next f, s)

/-- Make a table. -/
def newTable (f : LuaFrame) (s : State) (a fields items : Nat) : Step × State :=
  let (v, s) := s.addTable (Table.withRoom items fields)
  (.next f.skip, f.set s a v)

/-- Set items of a table constructor. -/
def setList (f : LuaFrame) (s : State) (a count items : Nat) : State :=
  let count := if count = 0 then s.run.top - (f.base + a) - 1 else count
  match f.get s a with
  | .table id =>
      let values := s.slice (f.base + a + 1) count
      s.modifyTable id (·.setItems (items + 1) values)
  | _ => s

/-! ## Operators -/

/-- An operation on numbers; if the operands are others, the next instruction asks a
metatable. -/
@[inline] def arith (f : LuaFrame) (s : State) (op : ArithOp) (target : Nat) (a b : Value) :
    Step × State :=
  match Arithmetic.binary op a b with
  | .ok v => (.next f.skip, f.set s target v)
  | .error .divisionByZero =>
      (.fault f (State.arithmeticFault .divisionByZero false a b .elsewhere .elsewhere), s)
  | .error .remainderByZero =>
      (.fault f (State.arithmeticFault .remainderByZero false a b .elsewhere .elsewhere), s)
  | .error _ => (.next f, s)

/-- Ask a metatable about the operation of the instruction before. -/
def ask (f : LuaFrame) (s : State) (event : Event) (a b : Value) (left right : Origin) :
    Step × State :=
  let target := ((f.proto.instrAt (f.current - 1)).target?).getD 0
  ofReaction f s (s.ask event a b left right) target

/-- Compare with a small number. The two are the other way round if that is said. -/
def compareInt (f : LuaFrame) (s : State) (orEqual : Bool) (a : Value) (n : Int)
    (isFloat isFlipped outcome : Bool) : Step × State :=
  let b : Value := if isFloat then .num (Float.ofInt n) else .int (Int64.ofInt n)
  ofComparison f s (if isFlipped then s.less orEqual b a else s.less orEqual a b) outcome

/-- Put the last so many values below a place together, from the end. Answers how many are
left, or an operation on the last two that has no answer at once. -/
def joinLast (s : State) (top : Nat) : Nat → Nat → State × Option (Nat × Value × Value)
  | 0, _ => (s, none)
  | fuel + 1, count =>
      if count ≤ 1 then (s, none)
      else
        let a := s.slot (top - 2)
        let b := s.slot (top - 1)
        match a.asBytes?, b.asBytes? with
        | some x, some y =>
            if y.size = 0 then joinLast (s.put (top - 2) (.str x)) (top - 1) fuel (count - 1)
            else if x.size = 0 then
              joinLast (s.put (top - 2) (.str y)) (top - 1) fuel (count - 1)
            else
              let texts := strings s top count [] count
              let joined := texts.foldl (· ++ ·) ByteArray.empty
              let n := texts.length
              joinLast (s.put (top - n) (.str joined)) (top - n + 1) fuel (count - n + 1)
        | _, _ => (s, some (top, a, b))
where
  /-- The texts of the last values, as far as all of them have one. -/
  strings (s : State) (top count : Nat) (acc : List ByteArray) : Nat → List ByteArray
    | 0 => acc
    | n + 1 => match (s.slot (top - (count - n))).asBytes? with
      | some b => strings s top count (b :: acc) n
      | none => acc

/-- Put so many registers together. -/
def concat (f : LuaFrame) (s : State) (a count : Nat) : Step × State :=
  match joinLast s (f.base + a + count) count count with
  | (s, none) => (.next f, s)
  | (s, some (top, x, y)) =>
      let left := Origin.register (top - 2 - f.base)
      match s.concat x y left (.register (top - 1 - f.base)) with
      | .invoke m arguments | .deny m arguments =>
          callAt f s top m arguments (.joined (top - 2))
      | .fault cause => (.fault f cause, s)
      | .value v => (.next f, s.put (top - 2) v)

/-! ## Functions -/

/-- The cells that a function takes from the call that makes it. -/
def captureAll (f : LuaFrame) : List UpvalueInfo → Array Nat → State → Array Nat × State
  | [], cells, s => (cells, s)
  | u :: us, cells, s =>
      if u.inStack then
        let (id, s) := s.cellAt (f.base + u.index)
        captureAll f us (cells.push id) s
      else captureAll f us (cells.push (f.cellOf u.index)) s

/-- Make a function. -/
def closure (f : LuaFrame) (s : State) (a i : Nat) : State :=
  let proto := f.proto.protos.getD i default
  let (cells, s) := captureAll f proto.upvalues.toList #[] s
  let (v, s) := s.addFunction (.closure proto cells)
  f.set s a v

/-- Copy values downwards. -/
def copyDown (s : State) (source target : Nat) : Nat → State
  | 0 => s
  | n + 1 => copyDown (s.put target (s.slot source)) (source + 1) (target + 1) n

/-- Whether so many more values have no room on the stack above a place. -/
def isFull (s : State) (top more : Nat) : Bool :=
  if s.run.isOverflown then maxStack + stackReserve ≤ top + more else maxStack < top + more

/-- Move the function and its parameters above the extra arguments. -/
def prepareVararg (f : LuaFrame) (s : State) (parameters : Nat) : Step × State :=
  let given := f.extra
  let top := f.base + given
  if isFull s top (f.proto.registers + 1) then (.overflow f, s)
  else
    let s := s.grow (top + 1 + f.proto.registers + nativeRoom)
    let s := copyDown s (f.base - 1) top (parameters + 1)
    let s := s.putCount f.base parameters []
    (.next { f with base := top + 1, extra := given - parameters }, s)

/-- Load extra arguments. -/
def loadExtra (f : LuaFrame) (s : State) (a c : Nat) : Step × State :=
  let first := f.base - 1 - f.extra
  if c = 0 then
    if isFull s f.stop f.extra then (.overflow f, s)
    else
      let s := s.grow (f.stop + f.extra + nativeRoom)
      let place := f.base + a
      let s := s.putAll place (s.slice first f.extra)
      (.next f, s.modifyRun fun r => { r with top := place + f.extra })
  else (.next f, s.putCount (f.base + a) (c - 1) (s.slice first (min f.extra (c - 1))))

/-! ## Loops -/

/-- How often a loop over integers is gone through after its first time. -/
def intLoopCount (start limit step : Int64) : Nat :=
  if 0 < step.toInt then ((limit.toInt - start.toInt) / step.toInt).toNat
  else ((start.toInt - limit.toInt) / (-step.toInt)).toNat

/-- The integer limit of a loop over integers; no limit if the loop is not to be gone
through, and nothing for what is no number. -/
def intLimit? (start step : Int64) (limit : Value) : Option (Option Int64) :=
  let up := 0 < step.toInt
  let within (n : Int64) : Option Int64 :=
    if (if up then n < start else start < n) then none else some n
  match limit.asNumber? with
  | some (.int n) => some (within n)
  | some (.num x) => match Value.intOfFloat? (if up then x.floor else x.ceil) with
    | some n => some (within n)
    | none =>
        if 0.0 < x then some (if up then some Int64.maxValue else none)
        else some (if up then none else some Int64.minValue)
  | _ => none

/-- The fault of what is no number in the head of a loop. -/
def loopFault (s : State) (what : String) (v : Value) : Fault :=
  .text s!"bad 'for' {what} (number expected, got {Text.ofBytesLossy (s.typeNameOf v)})"

/-- Begin a loop over numbers. The second hidden variable becomes the number of times that
are left, if the numbers are integers. -/
def forPrepare (f : LuaFrame) (s : State) (a forth : Nat) : Step × State :=
  let start := f.get s a
  let limit := f.get s (a + 1)
  let step := f.get s (a + 2)
  let skipped : Step := .next (f.jump (forth + 1))
  match start, step with
  | .int i, .int d =>
      if d = 0 then (.fault f (.text "'for' step is zero"), s)
      else match intLimit? i d limit with
        | none => (.fault f (loopFault s "limit" limit), s)
        | some none => (skipped, f.set s (a + 3) start)
        | some (some n) =>
            let count := UInt64.ofNat (intLoopCount i n d)
            (.next f, f.set (f.set s (a + 1) (.int count.toInt64)) (a + 3) start)
  | _, _ => match limit.asFloat?, step.asFloat?, start.asFloat? with
    | none, _, _ => (.fault f (loopFault s "limit" limit), s)
    | _, none, _ => (.fault f (loopFault s "step" step), s)
    | _, _, none => (.fault f (loopFault s "initial value" start), s)
    | some n, some d, some x =>
        if d == 0.0 then (.fault f (.text "'for' step is zero"), s)
        else if (if 0.0 < d then n < x else x < n) then (skipped, s)
        else
          (.next f, s.putAll (f.base + a) [.num x, .num n, .num d, .num x])

/-- Go on with a loop over numbers, if it is not over. -/
def forLoop (f : LuaFrame) (s : State) (a back : Nat) : Step × State :=
  match f.get s a, f.get s (a + 1), f.get s (a + 2) with
  | .int i, .int count, .int d =>
      if count = 0 then (.next f, s)
      else
        let next := Value.int (i + d)
        let s := f.set (f.set (f.set s (a + 1) (.int (count - 1))) a next) (a + 3) next
        (.next { f with place := f.place - back }, s)
  | .num x, .num n, .num d =>
      let x := x + d
      if (if 0.0 < d then x ≤ n else n ≤ x) then
        (.next { f with place := f.place - back }, f.set (f.set s a (.num x)) (a + 3) (.num x))
      else (.next f, s)
  | _, _, _ => (.next f, s)

/-! ## Closing variables -/

/-- Have a variable closed later, unless its value says nothing. -/
def toClose (f : LuaFrame) (s : State) (a : Nat) (next : LuaFrame) : Step × State :=
  let v := f.get s a
  if !v.truthy then (.next next, s)
  else if (s.metamethod v .close).isNil then
    let name := (f.proto.localName? a f.current).getD "?"
    (.fault f (.text s!"variable '{name}' got a non-closable value"), s)
  else (.next next, s.modifyRun fun r => { r with pending := (f.base + a) :: r.pending })

/-- Close the last variable from a place on, if one is left, and come back; else do something
else. `top` is where the function that closes it is put, if it must not be next to the
variable. -/
def closeFrom (f : LuaFrame) (s : State) (place : Nat) (top? : Option Nat)
    (otherwise : State → Step × State) : Step × State :=
  let s := s.closeCells place
  match s.run.pending with
  | [] => otherwise s
  | i :: rest =>
      if i < place then otherwise s
      else
        let s := s.modifyRun fun r => { r with pending := rest }
        let v := s.slot i
        let m := s.metamethod v .close
        match top? with
        | some top => callAt f s top m [v, .nil] (.again s.run.top)
        | none => callAt f (s.put (i + 1) .nil) (i + 2) m [v, .nil] (.again s.run.top)

/-- Return so many registers. -/
def giveBack (f : LuaFrame) (s : State) (a b : Nat) (closes : Bool) : Step × State :=
  let first := f.base + a
  let count := if b = 0 then s.run.top - first else b - 1
  let results (s : State) : Step × State := (.ret f (s.slice first count), s)
  if closes then
    let top := max f.stop (first + count)
    closeFrom f s f.base (some top) results
  else results s

end Step

/-- Carry out the next instruction of a call. -/
def LuaFrame.step (f : LuaFrame) (s : State) : Step × State :=
  let instr := f.proto.code.getD f.place default
  let f := f.skip
  match instr with
  | .move a b => (.next f, f.set s a (f.get s b))
  | .loadInt a n => (.next f, f.set s a (.int (Int64.ofInt n)))
  | .loadFloat a n => (.next f, f.set s a (.num (Float.ofInt n)))
  | .loadConst a k => (.next f, f.set s a (f.constant k))
  | .loadFarConst a => match f.proto.code[f.place]? with
    | some (.extra k) => (.next f.skip, f.set s a (f.constant k))
    | _ => (.next f, s)
  | .loadFalse a => (.next f, f.set s a (.bool false))
  | .loadFalseSkip a => (.next f.skip, f.set s a (.bool false))
  | .loadTrue a => (.next f, f.set s a (.bool true))
  | .loadNil a n => (.next f, s.putCount (f.base + a) (n + 1) [])
  | .getUpvalue a i => (.next f, f.set s a (s.cell (f.cellOf i)))
  | .setUpvalue a i => (.next f, s.setCell (f.cellOf i) (f.get s a))
  | .getUpvalueField a i k =>
      Step.index f s a (s.cell (f.cellOf i)) (f.constant k) (.upvalue i)
  | .getTable a b c => Step.index f s a (f.get s b) (f.get s c) (.register b)
  | .getItem a b n => Step.index f s a (f.get s b) (.int (Int64.ofNat n)) (.register b)
  | .getField a b k => Step.index f s a (f.get s b) (f.constant k) (.register b)
  | .setUpvalueField i k v =>
      Step.assign f s (s.cell (f.cellOf i)) (f.constant k) (f.arg s v) (.upvalue i)
  | .setTable a b v => Step.assign f s (f.get s a) (f.get s b) (f.arg s v) (.register a)
  | .setItem a n v =>
      Step.assign f s (f.get s a) (.int (Int64.ofNat n)) (f.arg s v) (.register a)
  | .setField a k v => Step.assign f s (f.get s a) (f.constant k) (f.arg s v) (.register a)
  | .newTable a fields items _ => Step.newTable f s a fields items
  | .method a b key =>
      let object := f.get s b
      let key := f.arg s key
      Step.index f (f.set s (a + 1) object) a object key (.register b)
  | .addInt a b n => Step.arith f s .add a (f.get s b) (.int (Int64.ofInt n))
  | .arithConst op a b k => Step.arith f s op a (f.get s b) (f.constant k)
  | .shiftRightInt a b n => Step.arith f s .shr a (f.get s b) (.int (Int64.ofInt n))
  | .shiftLeftInt a b n => Step.arith f s .shl a (.int (Int64.ofInt n)) (f.get s b)
  | .arith op a b c => Step.arith f s op a (f.get s b) (f.get s c)
  | .ask a b event => Step.ask f s event (f.get s a) (f.get s b) (.register a) (.register b)
  | .askInt a n event isFlipped =>
      let b : Value := .int (Int64.ofInt n)
      if isFlipped then Step.ask f s event b (f.get s a) .elsewhere (.register a)
      else Step.ask f s event (f.get s a) b (.register a) .elsewhere
  | .askConst a k event isFlipped =>
      let b := f.constant k
      if isFlipped then Step.ask f s event b (f.get s a) .elsewhere (.register a)
      else Step.ask f s event (f.get s a) b (.register a) .elsewhere
  | .unary op a b =>
      let v := f.get s b
      let r := s.unary op v (.register b)
      match op with
      | .len => Step.ofReaction f (s.noteLength v) r a
      | _ => Step.ofReaction f s r a
  | .concat a n => Step.concat f s a n
  | .close a => Step.closeFrom f s (f.base + a) none fun s => (.next f, s)
  | .toClose a => Step.toClose f s a f
  | .jump offset => (.next (f.jump offset), s)
  | .compare c a b outcome =>
      let x := f.get s a
      let y := f.get s b
      match c with
      | .eq => Step.ofComparison f s (s.equal x y) outcome
      | .lt => Step.ofComparison f s (s.less false x y) outcome
      | .le => Step.ofComparison f s (s.less true x y) outcome
  | .equalConst a k outcome => (.next (f.decide ((f.get s a).rawEquals (f.constant k)) outcome), s)
  | .equalInt a n _ outcome =>
      (.next (f.decide ((f.get s a).rawEquals (.int (Int64.ofInt n))) outcome), s)
  | .lessInt a n isFloat outcome => Step.compareInt f s false (f.get s a) n isFloat false outcome
  | .lessEqualInt a n isFloat outcome =>
      Step.compareInt f s true (f.get s a) n isFloat false outcome
  | .greaterInt a n isFloat outcome =>
      Step.compareInt f s false (f.get s a) n isFloat true outcome
  | .greaterEqualInt a n isFloat outcome =>
      Step.compareInt f s true (f.get s a) n isFloat true outcome
  | .test a outcome => (.next (f.decide (f.get s a).truthy outcome), s)
  | .testSet a b outcome =>
      let v := f.get s b
      if v.truthy == outcome then (.next f, f.set s a v) else (.next f.skip, s)
  | .call a b c =>
      let base := f.base + a
      let count := if b = 0 then s.run.top - base - 1 else b - 1
      (.call f base count (.store base (if c = 0 then none else some (c - 1))) false, s)
  | .tailCall a b _ closes =>
      let base := f.base + a
      let count := if b = 0 then s.run.top - base - 1 else b - 1
      (.tailCall f base count, if closes then s.closeCells f.base else s)
  | .ret a b _ closes => Step.giveBack f s a b closes
  | .retNothing .. => (.ret f [], s)
  | .retOne a _ => (.ret f [f.get s a], s)
  | .forLoop a back => Step.forLoop f s a back
  | .forPrepare a forth => Step.forPrepare f s a forth
  | .eachPrepare a forth => Step.toClose f s (a + 3) (f.jump forth)
  | .eachCall a count =>
      let place := f.base + a
      let s := s.grow (place + 7 + nativeRoom)
      let s := s.putAll (place + 4) (s.slice place 3)
      (.call f (place + 4) 2 (.store (place + 4) (some count)) true, s)
  | .eachLoop a back =>
      let v := f.get s (a + 4)
      if v.isNil then (.next f, s)
      else (.next { f with place := f.place - back }, f.set s (a + 2) v)
  | .setList a b items isMore =>
      (.next (if isMore then f.skip else f), Step.setList f s a b items)
  | .closure a i => (.next f, Step.closure f s a i)
  | .vararg a c => Step.loadExtra f s a c
  | .varargPrepare parameters => Step.prepareVararg f s parameters
  | .extra _ => (.next f, s)

/-- Go on with a call that has got the results of a call that it made. -/
def LuaFrame.receive (f : LuaFrame) (s : State) (deliver : Deliver) (results : List Value) :
    Step × State :=
  match deliver with
  | .store place (some 1) => (.next f, s.put place ((results.head?).getD .nil))
  | .store place (some n) => (.next f, s.putCount place n results)
  | .store place none =>
      let top := place + results.length
      (.next f, ((s.grow (top + nativeRoom)).putAll place results).modifyRun fun r =>
        { r with top := top })
  | .first place => (.next f, s.put place ((results.head?).getD .nil))
  | .joined place =>
      let s := s.put place ((results.head?).getD .nil)
      match f.proto.instrAt f.current with
      | .concat a _ => Step.concat f s a (place - (f.base + a) + 1)
      | _ => (.next f, s)
  | .truth outcome => (.next (f.decide ((results.head?).getD .nil).truthy outcome), s)
  | .again top =>
      (.next { f with place := f.place - 1 }, s.modifyRun fun r => { r with top := top })
  | .discard | .native | .host => (.next f, s)

end LuaShell.Lua
