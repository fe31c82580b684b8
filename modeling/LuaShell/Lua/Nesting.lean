import LuaShell.Lua.Machine

/-!
# Calls from native code

What native code can do besides working on objects: call values, catch errors, and
go on with threads.  Each of these is a run inside a run.  How deeply native calls
are nested is bounded, so the knot is tied over a number.
-/

namespace LuaShell.Lua

namespace Kernel

variable (k : Kernel)

/-- Call a value. -/
def call (calls : Calls) (v : Value) (args : List Value) : Act (List Value) := fun w =>
  match k.runCall calls w.engine.topPlace v args w with
  | (.done vs, w) | (.stopped vs, w) => (.ok vs, w)
  | (.failed e, w) => (.error (.passed e), w)

/-! ## Closing variables -/

/-- Close the variables from a place on after an error, or after none. An error while closing
takes the place of the first one. -/
def closeFrom (calls : Calls) (place depth : Nat) (frames : List Frame) :
    Nat → Option Value → World → Option Value × World
  | 0, e, w => (e, w)
  | n + 1, e, w =>
      let s := w.engine
      match s.run.pending with
      | [] => (e, w)
      | i :: rest =>
          if i < place || s.halted.isSome then (e, w)
          else
            let v := s.slot i
            let error := e.getD .nil
            let s := s.modifyRun fun r =>
              { r with pending := rest, frames := frames, depth := depth }
            let s := (s.grow (i + 5 + nativeRoom)).put (i + 1) error
            match k.runCall calls (i + 2) (s.metamethod v .close) [v, error]
                { w with engine := s } with
            | (.failed e, w) => closeFrom calls place depth frames n (some e) w
            | (_, w) => closeFrom calls place depth frames n e w

/-- Close all variables from a place on. -/
def closeAll (calls : Calls) (place : Nat) (e : Option Value) (w : World) :
    Option Value × World :=
  let r := w.engine.run
  let count := r.pending.length
  k.closeFrom calls place r.depth r.frames count e
    { w with engine := w.engine.closeCells place }

/-- Call a value and answer an error that is raised. -/
def protect (calls : Calls) (handler : Handler) (v : Value) (args : List Value) :
    Act (Except Value (List Value)) := fun w =>
  let outer := w.engine.run
  let base := w.engine.topPlace + 1
  let inside := w.engine.modifyRun fun r => { r with handler := handler }
  let restore (w : World) : World := { w with engine := w.engine.modifyRun fun r =>
    { r with handler := outer.handler, depth := outer.depth } }
  match k.runCall calls base v args { w with engine := inside } with
  | (.done vs, w) | (.stopped vs, w) => (.ok (.ok vs), restore w)
  | (.failed e, w) =>
      if w.engine.halted.isSome then (.error (.passed e), w)
      else
        let s := w.engine.modifyRun fun r =>
          { r with frames := outer.frames, depth := outer.depth, isOverflown := false }
        let (e, w) := k.closeAll calls base (some e) { w with engine := s }
        let s := w.engine.modifyRun fun r => { r with frames := outer.frames }
        (.ok (.error (e.getD .nil)), restore { w with engine := s })

/-- Do something and answer an error that is raised. -/
def attempt (calls : Calls) (act : Act (List Value)) : Act (Except Value (List Value)) :=
  fun w =>
  let outer := w.engine.run
  let place := w.engine.topPlace
  let settle (w : World) : World := { w with engine := w.engine.modifyRun fun r =>
    { r with frames := outer.frames, handler := outer.handler, depth := outer.depth } }
  let before : World :=
    { w with engine := w.engine.modifyRun fun r => { r with mayYield := false } }
  let (answer, w) := act before
  let w : World :=
    { w with engine := w.engine.modifyRun fun r => { r with mayYield := outer.mayYield } }
  match answer with
  | .ok vs => (.ok (.ok vs), w)
  | .error e =>
      let (v, w) := Raise.handleNative calls e w
      if w.engine.halted.isSome then (.error (.passed v), w)
      else
        let s := (settle w).engine.modifyRun fun r => { r with isOverflown := false }
        let (e, w) := k.closeAll calls place (some v) { w with engine := s }
        (.ok (.error (e.getD .nil)), settle w)

/-! ## Threads -/

/-- Put the thread that runs aside, and take up another one. -/
def switchTo (id : Nat) (s : State) : State :=
  let t := s.thread id
  let threads := s.threads.modify s.current fun t =>
    { t with stack := s.stack, activity := s.run }
  { s with
    threads := threads.modify id fun t => { t with stack := #[], activity := .idle }
    stack := t.stack
    run := t.activity
    current := id }

/-- Change how far a thread is. -/
def setStatus (id : Nat) (status : ThreadStatus) (s : State) : State :=
  s.modifyThread id fun t => { t with status := status }

/-- The place of the function that a thread starts with. -/
def startPlace : Nat := 1

/-- Start the thread that has been taken up, or go on with it. -/
def continueThread (calls : Calls) (t : Thread) (args : List Value) (w : World) :
    Outcome × World :=
  let ⟨h, s⟩ := w
  match t.start with
  | some v =>
      if maxNativeDepth ≤ s.run.depth then
        let (e, w) := Raise.operation calls "C stack overflow".toUTF8 ⟨h, s⟩
        (.failed e, w)
      else
        match k.enter calls ⟨startPlace, args.length, .host, 0⟩ h
            (s.putCall startPlace v args) with
        | (.ok step, ⟨h, s⟩) => k.run calls maxSteps step h s
        | (.error e, w) => (.failed e, w)
  | none => k.run calls maxSteps (.give t.deliver args) h s

/-- Go on with a thread that is suspended. -/
def resume (calls : Calls) (id : Nat) (args : List Value) : Act (Except Value (List Value)) :=
  fun w =>
  let s := w.engine
  let depth := s.run.depth
  let outer := s.current
  if maxNativeDepth ≤ depth then (.ok (.error (.ofString "C stack overflow")), w)
  else
    let t := s.thread id
    let start := t.start
    let deliver := t.deliver
    let s := setStatus id .running (setStatus outer .normal s)
    let s := s.modifyThread id fun t => { t with start := none }
    let s := (switchTo id s).modifyRun fun r =>
      { r with depth := depth + 1, ground := depth + 1, epoch := r.epoch + 1, mayYield := true }
    let (outcome, w) := k.continueThread calls
      ⟨.running, start, #[], .idle, deliver, none⟩ args { w with engine := s }
    let back (status : ThreadStatus) (failure : Option Value) : World :=
      let s := setStatus outer .running (switchTo outer w.engine)
      { w with engine := s.modifyThread id fun t =>
        { t with status := status, failure := failure } }
    match outcome with
    | .done vs => (.ok (.ok vs), back .dead none)
    | .stopped vs => (.ok (.ok vs), back .suspended none)
    | .failed e =>
        if w.engine.halted.isSome then (.error (.passed e), back .dead none)
        else (.ok (.error e), back .dead (some e))

/-- End a thread; the answer is the error that it ends with. The thread that runs can be ended
only if nothing comes after that. -/
def closeThread (calls : Calls) (id : Nat) : Act (Option Value) := fun w =>
  let s := w.engine
  let depth := s.run.depth
  let outer := s.current
  let failure := (s.thread id).failure
  let s := if id = outer then s
    else switchTo id (setStatus id .running (setStatus outer .normal s))
  let s := s.modifyRun fun r =>
    { r with frames := [], handler := .none, depth := depth, mayYield := false }
  let (e, w) := k.closeAll calls startPlace failure { w with engine := s }
  let s := if id = outer then w.engine else setStatus outer .running (switchTo outer w.engine)
  let s := s.modifyThread id fun t =>
    { t with status := .dead, start := none, stack := #[], activity := .idle, failure := none }
  if s.halted.isSome then (.error (.passed (e.getD .nil)), { w with engine := s })
  else (.ok e, { w with engine := s })

/-! ## The knot -/

/-- What native code can do when calls can be nested so deeply. -/
def calls : Nat → Calls
  | 0 =>
      let tooDeep : NativeError := .passed (.ofString "error in error handling")
      ⟨fun _ _ => throw tooDeep, fun _ _ _ => throw tooDeep, fun _ => throw tooDeep,
        fun _ _ => throw tooDeep, fun _ => throw tooDeep⟩
  | n + 1 =>
      { call := fun v args w => k.call (calls n) v args w
        protect := fun handler v args w => k.protect (calls n) handler v args w
        attempt := fun act w => k.attempt (calls n) act w
        resume := fun id args w => k.resume (calls n) id args w
        closeThread := fun id w => k.closeThread (calls n) id w }

/-- What native code can do. -/
def allCalls : Calls :=
  k.calls (maxReportDepth + 10)

end Kernel

end LuaShell.Lua
