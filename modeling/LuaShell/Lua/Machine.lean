import LuaShell.Lua.Raise

/-!
# The machine

A run goes on step by step.  Calls of functions in code and of native functions that
give control away are kept on the list of calls of the thread, so that such a run can
be left in the middle and gone on with; other native functions run in one go and may
start a run of their own.

An error looks for a call that catches it.  The calls above that end, the variables
of theirs that have to be closed are closed, and an error in that takes the place of
the first one.
-/

namespace LuaShell.Lua

/-- What the machine is given: the functions of the library, and what hooks do. -/
structure Kernel where
  native : String → Option Native
  control : String → Option Control
  hook : Calls → Callback → List Value → World → Answer State (List Value)

/-- What running something comes to. -/
inductive Outcome where
  | done (results : List Value)
  | failed (error : Value)
  /-- The thread stopped and can be gone on with. -/
  | stopped (values : List Value)

namespace State

/-- A call is over that was counted in some epoch. -/
def leave (s : State) (epoch : Nat) : State :=
  if epoch = s.run.epoch then s.modifyDepth (· - 1) else s

/-- Change the native call that is innermost. -/
def modifyNative (s : State) (g : NativeFrame → NativeFrame) : State :=
  s.modifyRun fun r => { r with frames := match r.frames with
    | .native f :: rest => .native (g f) :: rest
    | frames => frames }

/-- Put a function and its arguments at a place on the stack, with room after them. -/
def putCall (s : State) (base : Nat) (v : Value) (args : List Value) : State :=
  (s.grow (base + 1 + args.length + nativeRoom)).putAll base (v :: args)

end State

namespace Kernel

variable (k : Kernel)

/-! ## Entering calls -/

/-- The error of calling what cannot be called. -/
def callFault (calls : Calls) (v : Value) (w : World) : Value × World :=
  let s := w.engine
  let name : OperandName := match s.run.frames with
    | .lua f :: _ => f.proto.calleeName f.current
    | _ => none
  Raise.operation calls (s.faultText (fun _ => name) (.kind v "call" .elsewhere)) w

/-- Run a native function; its own call is on the list. -/
def runNative (calls : Calls) (name : String) (cells : Array Nat) (args : List Value) :
    Act Reply :=
  match k.native name with
  | some f => do return .values (← f calls cells args)
  | none => match k.control name with
    | some f => f calls cells args
    | none => return .values []

/-- Run a hook; its own call is on the list. A failure is wrapped with the call stack. -/
def runHook (calls : Calls) (callback : Callback) (args : List Value) : Act Reply := fun w =>
  match k.hook calls callback args w with
  | (.ok vs, w) => (.ok (.values vs), w)
  | (.error e, w) =>
      let trace := Text.ofBytesLossy (Traceback.text w.engine)
      let (v, s) := w.engine.addFailure (.callback trace e)
      (.error (.raise v), { w with engine := s })

/-- Why the running thread cannot stop. -/
def yieldFault (s : State) : String :=
  if s.current = 0 then "attempt to yield from outside a coroutine"
  else "attempt to yield across a C-call boundary"

/-- A function to be called at a place, after which so many arguments stand. -/
structure Target where
  base : Nat
  count : Nat
  deliver : Deliver
  /-- The epoch in which the call is counted, or zero. -/
  epoch : Nat

/-- An error that is raised instead of a call. -/
def refuse (e : Value × World) : Except Value Step × World :=
  (.error e.1, e.2)

/-- Enter a function in code. -/
def enterCode (calls : Calls) (id : Nat) (p : Proto) (upvalues : Array Nat) (t : Target)
    (h : Host) (s : State) : Except Value Step × World :=
  let top := t.base + 1 + t.count
  if Step.isFull s top p.registers then refuse (Raise.overflow calls ⟨h, s⟩)
  else
    let s := s.grow (top + p.registers + nativeRoom)
    let s := if t.count < p.parameters then s.putCount top (p.parameters - t.count) [] else s
    let f : LuaFrame :=
      ⟨id, p, upvalues, t.base + 1, 0, max t.count p.parameters, false, t.deliver, t.epoch⟩
    (.ok (.next f), ⟨h, s⟩)

/-- Call a value from the native function whose call is innermost. -/
def callFromNative (offset : Nat) (v : Value) (args : List Value) (waiting : Waiting)
    (w : World) : Step × World :=
  let s := w.engine
  let base := match s.run.frames with
    | .native f :: _ => f.base + offset
    | _ => s.topPlace
  let s := s.modifyNative fun f => { f with top := base, waiting := waiting }
  (.enter base args.length .native true, { w with engine := s.putCall base v args })

/-- The innermost native call is over. -/
def finishNative (results : List Value) (w : World) : Step × World :=
  let s := w.engine
  match s.run.frames with
  | .native f :: _ => (.give f.deliver results, { w with engine := (s.popFrame).leave f.epoch })
  | _ => (.give .host results, w)

/-- Do what a native function wants that gives control away. -/
def obey (calls : Calls) (reply : Reply) (w : World) : Step × World :=
  let s := w.engine
  match reply with
  | .values vs => finishNative vs w
  | .call v args offset limit => callFromNative offset v args (.results limit) w
  | .guarded handler v args offset =>
      let waiting : Waiting := .guarded s.run.handler s.run.depth
      let s := s.modifyRun fun r => { r with handler := handler }
      callFromNative offset v args waiting { w with engine := s }
  | .yield vs =>
      if s.run.mayYield then match s.run.frames with
        | .native f :: _ => (.stop f.deliver vs, { w with engine := (s.popFrame).leave f.epoch })
        | _ => (.stop .host vs, w)
      else
        let (e, w) := Raise.operation calls (yieldFault s).toUTF8 w
        (.unwind e, w)

/-- Call a native function: its call is put on the list. -/
def enterNative (calls : Calls) (id : Nat) (act : List Value → Act Reply) (t : Target)
    (w : World) : Except Value Step × World :=
  let top := t.base + 1 + t.count
  if Step.isFull w.engine top nativeRoom then refuse (Raise.overflow calls w)
  else
    let args := w.engine.slice (t.base + 1) t.count
    let frame : Frame := .native ⟨some id, t.base, top, .nothing, t.deliver, t.epoch⟩
    match act args { w with engine := (w.engine.grow (top + nativeRoom)).pushFrame frame } with
    | (.ok reply, w) =>
        let (step, w) := obey calls reply w
        (.ok step, w)
    | (.error e, w) =>
        let (v, w) := Raise.handleNative calls e w
        (.ok (.unwind v), w)

/-- Call a function; the caller is on the list already. An error that the caller raises is
answered, others look for who catches them. -/
def enterFunction (calls : Calls) (id : Nat) (t : Target) (h : Host) (s : State) :
    Except Value Step × World :=
  match s.functions.getD id default with
  | .closure p upvalues => enterCode calls id p upvalues t h s
  | .native name cells => enterNative calls id (k.runNative calls name cells) t ⟨h, s⟩
  | .hook callback => enterNative calls id (k.runHook calls callback) t ⟨h, s⟩

/-- Call what is at a place. -/
def enter (calls : Calls) (t : Target) (h : Host) (s : State) : Except Value Step × World :=
  match s.slot t.base with
  | .func id => k.enterFunction calls id t h s
  | v => match s.callTarget State.maxCallChain v (s.slice (t.base + 1) t.count) with
    | .ok (id, args) =>
        k.enterFunction calls id { t with count := args.length } h
          (s.putCall t.base (.func id) args)
    | .error (some v) => refuse (callFault calls v ⟨h, s⟩)
    | .error none => refuse (Raise.overflow calls ⟨h, s⟩)

/-- Call what is at a place, and count the call if it is nested. -/
def invoke (calls : Calls) (base count : Nat) (deliver : Deliver) (isNested : Bool)
    (h : Host) (s : State) : Except Value Step × World :=
  if isNested then
    let s := s.modifyDepth (· + 1)
    match s.depthFault? with
    | some (e, true) => refuse (Raise.handle calls e ⟨h, s⟩)
    | some (e, false) => (.error e, ⟨h, s⟩)
    | none => k.enter calls ⟨base, count, deliver, s.run.epoch⟩ h s
  else k.enter calls ⟨base, count, deliver, 0⟩ h s

/-! ## Tail calls -/

/-- Call a function in place of the call that calls it. Native functions are called as
always; the return that follows ends the caller. -/
def replaceCall (calls : Calls) (f : LuaFrame) (base count : Nat) (h : Host) (s : State) :
    Except Value Step × World :=
  let v := s.slot base
  let plain (s : State) : Except Value Step × World :=
    k.enter calls ⟨base, count, .store base none, 0⟩ h (s.pushFrame (.lua f))
  match s.callTarget State.maxCallChain v (if isFunction v then [] else
      s.slice (base + 1) count) with
  | .error _ => plain s
  | .ok (id, args) => match s.functions.getD id default with
    | .closure p upvalues =>
        let delta := if f.proto.isVararg then f.extra + f.proto.parameters + 1 else 0
        let (count, s) := if isFunction v then (count, s)
          else (args.length, s.putCall base (.func id) args)
        if Step.isFull s (base + 1 + count) (p.registers - delta) then
          refuse (Raise.overflow calls ⟨h, s.pushFrame (.lua f)⟩)
        else
          let place := f.base - 1 - delta
          let s := s.grow (base + 1 + count + p.registers + nativeRoom)
          let s := Step.copyDown s base place (count + 1)
          let s := if count < p.parameters then
              s.putCount (place + 1 + count) (p.parameters - count) [] else s
          let f : LuaFrame :=
            ⟨id, p, upvalues, place + 1, 0, max count p.parameters, true, f.deliver, f.epoch⟩
          (.ok (.next f), ⟨h, s⟩)
    | _ => plain s
where
  isFunction : Value → Bool
    | .func _ => true
    | _ => false

/-! ## Catching errors -/

/-- Close the next variable of the innermost native call, which has caught an error, or
finish the call. -/
def closeNext (w : World) : Step × World :=
  let s := w.engine
  match s.run.frames with
  | .native f :: _ => match f.waiting with
    | .closing handler _ e => match s.run.pending with
      | i :: rest =>
          if i ≤ f.base then finish handler e
          else
            let v := s.slot i
            let s := s.modifyRun fun r => { r with pending := rest }
            let s := (s.grow (i + 5 + nativeRoom)).put (i + 1) e
            let s := s.putCall (i + 2) (s.metamethod v .close) [v, e]
            (.enter (i + 2) 2 .native true,
              { w with engine := s.modifyNative fun f => { f with top := i + 2 } })
      | [] => finish handler e
    | _ => finishNative [] w
  | _ => (.give .host [], w)
where
  finish (handler : Handler) (e : Value) : Step × World :=
    finishNative [.bool false, e]
      { w with engine := w.engine.modifyRun fun r => { r with handler := handler } }

/-- Catch an error in a native call: the calls above it end. -/
def catchError (f : NativeFrame) (callers : List Frame) (handler : Handler) (depth : Nat)
    (e : Value) (w : World) : Step × World :=
  let s := w.engine
  let f := { f with waiting := .closing handler depth e }
  let r := s.run
  let run : Activity :=
    { r with
      frames := .native f :: callers
      isOverflown := false
      depth := if r.mayYield then r.ground else depth
      epoch := if r.mayYield then r.epoch + 1 else r.epoch }
  closeNext { w with engine := ({ s with run := run }).closeCells (f.base + 1) }

/-- Look for who catches an error. -/
def unwindCalls (e : Value) (w : World) : List Frame → (Step ⊕ Outcome) × World
  | [] => (.inr (.failed e), setFrames [])
  | frame :: callers =>
      let pass : (Step ⊕ Outcome) × World := match frame.deliver with
        | .host => (.inr (.failed e), setFrames callers)
        | _ => unwindCalls e w callers
      match frame with
      | .native f =>
          let caught (handler : Handler) (depth : Nat) : (Step ⊕ Outcome) × World :=
            if w.engine.halted.isSome then pass
            else
              let (step, w) := catchError f callers handler depth e w
              (.inl step, w)
          match f.waiting with
          | .guarded handler depth | .closing handler depth _ => caught handler depth
          | _ => pass
      | _ => pass
where
  setFrames (frames : List Frame) : World :=
    { w with engine := w.engine.modifyRun fun r => { r with frames := frames } }

/-! ## Results -/

/-- Hand results to the call that waits for them. -/
def give (deliver : Deliver) (results : List Value) (w : World) : (Step ⊕ Outcome) × World :=
  match deliver with
  | .host => (.inr (.done results), w)
  | .native => match w.engine.run.frames with
    | .native f :: _ => go <| match f.waiting with
      | .results (some n) => finishNative (fitTo n results) w
      | .results none | .nothing => finishNative results w
      | .guarded handler _ =>
          finishNative (.bool true :: results)
            { w with engine := w.engine.modifyRun fun r => { r with handler := handler } }
      | .closing .. => closeNext w
    | _ => (.inr (.done results), w)
  | deliver =>
      let ⟨h, s⟩ := w
      match s.run.frames with
      | .lua f :: rest =>
          let (step, s) :=
            f.receive (s.modifyRun fun r => { r with frames := rest }) deliver results
          (.inl step, ⟨h, s⟩)
      | _ => (.inr (.done results), ⟨h, s⟩)
where
  go (next : Step × World) : (Step ⊕ Outcome) × World := (.inl next.1, next.2)

/-! ## Runs -/

/-- Go on after a call was made, or its error was raised. -/
def goOn : Except Value Step × World → (Step ⊕ Outcome) × World
  | (.ok step, w) => (.inl step, w)
  | (.error e, w) => (.inl (.unwind e), w)

/-- Do what an instruction asks for, or what else a step leads to. -/
def follow (calls : Calls) (step : Step) (h : Host) (s : State) : (Step ⊕ Outcome) × World :=
  match step with
  | .next f => (.inl (.next f), ⟨h, s⟩)
  | .call f base count deliver isNested =>
      goOn (k.invoke calls base count deliver isNested h (s.pushFrame (.lua f)))
  | .enter base count deliver isNested => goOn (k.invoke calls base count deliver isNested h s)
  | .tailCall f base count => goOn (k.replaceCall calls f base count h s)
  | .ret f results => give f.deliver results ⟨h, s.leave f.epoch⟩
  | .fault f cause =>
      let s := s.pushFrame (.lua f)
      goOn (refuse (Raise.operation calls (s.faultText f.nameOf cause) ⟨h, s⟩))
  | .overflow f => goOn (refuse (Raise.overflow calls ⟨h, s.pushFrame (.lua f)⟩))
  | .give deliver results => give deliver results ⟨h, s⟩
  | .unwind e => unwindCalls e ⟨h, s⟩ s.run.frames
  | .stop deliver values =>
      (.inr (.stopped values),
        ⟨h, s.modifyThread s.current fun t => { t with deliver := deliver }⟩)

/-- How many steps a run can have. -/
def maxSteps : Nat := 0x4000000000000000

/-- Run on from a step. -/
def run (calls : Calls) : Nat → Step → Host → State → Outcome × World
  | 0, _, h, s => (.failed (.ofString "too many steps"), ⟨h, s⟩)
  | n + 1, .next f, h, s =>
      let (step, s) := f.step s
      run calls n step h s
  | n + 1, step, h, s => match k.follow calls step h s with
    | (.inl step, ⟨h, s⟩) => run calls n step h s
    | (.inr outcome, w) => (outcome, w)

/-- Run a call that native code makes, in which the thread cannot stop. -/
def runCall (calls : Calls) (base : Nat) (v : Value) (args : List Value) (w : World) :
    Outcome × World :=
  let mayYield := w.engine.run.mayYield
  let s := (w.engine.putCall base v args).modifyRun fun r => { r with mayYield := false }
  let (outcome, w) := match k.invoke calls base args.length .host true w.host s with
    | (.ok step, ⟨h, s⟩) => k.run calls maxSteps step h s
    | (.error e, w) => (.failed e, w)
  (outcome, { w with engine := w.engine.modifyRun fun r => { r with mayYield := mayYield } })

end Kernel

end LuaShell.Lua
