import LuaShell.Lua.Act
import LuaShell.Lua.Reachable

/-!
# Letting go

The script can ask at any moment that all be let go that is not in use any more, and
otherwise only then is it done.  Objects that asked for it are told by their finalizers,
whose errors nobody hears of; while they are told, nothing else can be asked for.
-/

namespace LuaShell.Lua.Library.Garbage

/-! ## Telling -/

/-- Change how garbage is collected. -/
def changeCollection (f : Collection → Collection) : Act Unit :=
  Act.change fun s => { s with collection := f s.collection }

/-- Tell objects one after the other that they are not in use any more. -/
def tell (c : Calls) (due : List Value) : Act Unit := do
  changeCollection fun x => { x with isTelling := true }
  for v in due do
    match ← Act.ofState (·.metamethod v .gc) with
    | .nil => pure ()
    | finalizer =>
        let _ ← c.protect .none finalizer [v]
  changeCollection fun x => { x with isTelling := false }

/-- Let go of all that is not in use. -/
def letGo (c : Calls) : Act Unit := do
  tell c (← Act.update (·.letGo))

/-- The engine ends: all are told that still wait for it. -/
def finish (c : Calls) : Act Unit := do
  changeCollection fun x => { x with isEnding := true }
  tell c (← Act.update fun s => (s.watched, { s with watched := [] }))

/-! ## Asking -/

/-- A number as a small one: so many bits of it. -/
def smallNumber (args : List Value) (i : Nat) : Act Int := do
  return (← Act.intOr args i 0).toInt32.toInt

/-- A parameter of the collector as it is kept: a multiple of four of one byte. -/
def kept (n : Int) : Nat :=
  4 * (Int.tdiv n 4 % 256).toNat

/-- Go over to a kind of collecting; answers the kind before. -/
def changeMode (isGenerational : Bool) (pause multiplier : Int) : Act (List Value) := do
  let before ← Act.ofState (·.collection)
  Act.change fun s => { s with collection :=
    { before with
      isGenerational := isGenerational
      pause := if pause = 0 then before.pause else kept pause
      stepMultiplier := if multiplier = 0 then before.stepMultiplier else kept multiplier } }
  return [.ofString (if before.isGenerational then "generational" else "incremental")]

/-- `collectgarbage`. -/
def collectgarbage : Native := fun c _ args => do
  let what ← Act.option args 1 (some "collect")
    ["stop", "restart", "collect", "count", "step", "setpause", "setstepmul", "isrunning",
      "generational", "incremental"]
  if ← Act.ofState (·.collection.isTelling) then return [.nil]
  match what with
  | "count" =>
      let size ← Act.ofState fun s => s.objectCount - s.collection.gone
      return [.num (24.0 + Float.ofNat size / 16.0)]
  | "step" =>
      let _ ← smallNumber args 2
      letGo c
      return [.bool true]
  | "isrunning" => return [.bool (← Act.ofState (·.collection.isRunning))]
  | "stop" =>
      changeCollection fun c => { c with isRunning := false }
      return [.int 0]
  | "restart" =>
      changeCollection fun c => { c with isRunning := true }
      return [.int 0]
  | "setpause" =>
      let n ← smallNumber args 2
      let before ← Act.ofState (·.collection.pause)
      changeCollection fun c => { c with pause := kept n }
      return [.int (Int64.ofNat before)]
  | "setstepmul" =>
      let n ← smallNumber args 2
      let before ← Act.ofState (·.collection.stepMultiplier)
      changeCollection fun c => { c with stepMultiplier := kept n }
      return [.int (Int64.ofNat before)]
  | "generational" =>
      let _ ← smallNumber args 2
      let _ ← smallNumber args 3
      changeMode true 0 0
  | "incremental" =>
      let pause ← smallNumber args 2
      let multiplier ← smallNumber args 3
      let _ ← smallNumber args 4
      changeMode false pause multiplier
  | _ =>
      letGo c
      return [.int 0]

/-- The functions and their names. -/
def functions : List (String × Native) :=
  [("collectgarbage", collectgarbage)]

end LuaShell.Lua.Library.Garbage
