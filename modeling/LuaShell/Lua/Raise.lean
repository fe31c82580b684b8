import LuaShell.Lua.Act
import LuaShell.Lua.Step
import LuaShell.Lua.Traceback

/-!
# Raising errors

An error is handed to whoever handles it at the place where it is raised, while all
calls are still under way.  Handling counts as a native call, and an error in it is
handled again, until native calls are nested so deeply that it is given up.
-/

namespace LuaShell.Lua

/-- How deeply native calls can be nested. -/
def maxNativeDepth : Nat := 200

/-- How deeply they can be nested while that itself is being reported. -/
def maxReportDepth : Nat := 220

namespace State

/-- How the innermost call is named by the code that made it. -/
def ownName (s : State) : OperandName :=
  match s.run.frames with
  | frame :: caller => Traceback.callerName frame caller.head?
  | [] => none

/-- The error value of a failure in the innermost call, and whether it is a new one. -/
def errorOf (s : State) : NativeError → Value × Bool
  | .argument i message =>
      let fallback := (s.run.frames.head?.bind Frame.function?).bind (Traceback.loadedName? s)
      (.str (s.whereAt 1 ++ NativeError.argumentText s.ownName fallback i message), true)
  | .message text => (.str (s.whereAt 1 ++ text), true)
  | .raise v => (v, true)
  | .passed v => (v, false)

/-- A call begins. -/
def pushFrame (s : State) (f : Frame) : State :=
  s.modifyRun fun r => { r with frames := f :: r.frames }

/-- A call is over. -/
def popFrame (s : State) : State :=
  s.modifyRun fun r => { r with frames := r.frames.tail }

/-- Change how deeply native calls are nested. -/
def modifyDepth (s : State) (f : Nat → Nat) : State :=
  s.modifyRun fun r => { r with depth := f r.depth }

/-- A message about what the innermost call does, with its place if it is in code. -/
def operationMessage (s : State) (text : ByteArray) : Value :=
  match s.run.frames with
  | .lua f :: _ => .str (operationPosition f ++ text)
  | _ => .str text

/-- Why native calls are nested too deeply, and whether that can still be handled. -/
def depthFault? (s : State) : Option (Value × Bool) :=
  if s.run.depth = maxNativeDepth then
    some (s.operationMessage "C stack overflow".toUTF8, true)
  else if maxReportDepth ≤ s.run.depth then some (.ofString "error in error handling", false)
  else none

end State

namespace Raise

/-- The text of an error value and the call stack. -/
def withTraceback (calls : Calls) (v : Value) : Act Value := do
  match v with
  | .failure _ => return v
  | v =>
      let text ← Act.display calls v
      let trace ← Act.ofState Traceback.text
      return .str (Value.untilZero text ++ "\n".toUTF8 ++ trace)

/-- Do something in a native call of its own that no function makes. -/
def inNative {α : Type} (act : Act α) : Act α := fun w =>
  let s := w.engine
  let base := s.topPlace
  let frame : Frame := .native ⟨none, base, base + 1, .nothing, .host, 0⟩
  match act { w with engine := s.pushFrame frame } with
  | (.ok a, w) => (.ok a, { w with engine := w.engine.popFrame })
  | failed => failed

/-- What an error value becomes by whoever handles it, if errors in that are handled so
often. -/
def handleWithin (calls : Calls) : Nat → Value → World → Value × World
  | 0, v, w => (v, w)
  | n + 1, v, w => match w.engine.run.handler with
    | .none => (v, w)
    | .traceback =>
        let w : World := { w with engine := w.engine.modifyDepth (· + 1) }
        match w.engine.depthFault? with
        | some (e, true) => handleWithin calls n e w
        | some (e, false) => (e, w)
        | none => match inNative (withTraceback calls v) w with
          | (.ok v, w) => (v, { w with engine := w.engine.modifyDepth (· - 1) })
          | (.error e, w) => match w.engine.errorOf e with
            | (v, true) => handleWithin calls n v w
            | (v, false) => (v, w)
    | .function f => match calls.call f [v] w with
      | (.ok vs, w) => ((vs.head?).getD .nil, w)
      | (.error e, w) => ((w.engine.errorOf e).1, w)

/-- What an error value becomes by whoever handles it. Nobody handles what ends the shell. -/
def handle (calls : Calls) (v : Value) (w : World) : Value × World :=
  if w.engine.halted.isSome then (v, w) else handleWithin calls maxReportDepth v w

/-- What the failure of the innermost native call becomes by whoever handles it. -/
def handleNative (calls : Calls) (e : NativeError) (w : World) : Value × World :=
  match w.engine.errorOf e with
  | (v, true) => handle calls v w
  | (v, false) => (v, w)

/-- What a message about what the innermost call does becomes by whoever handles it. -/
def operation (calls : Calls) (text : ByteArray) (w : World) : Value × World :=
  handle calls (w.engine.operationMessage text) w

/-- What the error becomes that the stack is too high. While that is handled the stack may
become a little higher. -/
def overflow (calls : Calls) (w : World) : Value × World :=
  if w.engine.run.isOverflown then (.ofString "error in error handling", w)
  else
    operation calls "stack overflow".toUTF8
      { w with engine := w.engine.modifyRun fun r => { r with isOverflown := true } }

end Raise

end LuaShell.Lua
