import LuaShell.Lua.Act

/-!
# The library of threads

A thread runs until it yields, ends or fails; whoever resumed it goes on then.
-/

namespace LuaShell.Lua.Library.Threads

/-- A thread that has not been started. -/
def newThread (f : Value) : Act Value :=
  Act.update fun s =>
    (.thread s.threads.size,
      { s with threads :=
          s.threads.push ⟨.suspended, some f, #[], .idle, .discard, none⟩ })

/-- `create`. -/
def create : Native := fun _ _ args => do
  return [← newThread (← Act.function args 1)]

/-- An argument that is a thread. -/
def thread (args : List Value) : Act Nat :=
  match Act.argument args 1 with
  | .thread id => pure id
  | _ => Act.failType args 1 "thread"

/-- How far a thread is. -/
def statusOf (id : Nat) : Act ThreadStatus :=
  Act.ofState fun s => (s.thread id).status

/-- The word for how far a thread is. -/
def statusName : ThreadStatus → String
  | .suspended => "suspended"
  | .running => "running"
  | .normal => "normal"
  | .dead => "dead"

/-- Go on with a thread if that is possible. -/
def tryResume (c : Calls) (id : Nat) (args : List Value) : Act (Except Value (List Value)) := do
  match ← statusOf id with
  | .suspended => c.resume id args
  | .dead => return .error (.ofString "cannot resume dead coroutine")
  | _ => return .error (.ofString "cannot resume non-suspended coroutine")

/-- `resume`. -/
def resume : Native := fun c _ args => do
  match ← tryResume c (← thread args) (args.drop 1) with
  | .ok vs => return .bool true :: vs
  | .error e => return [.bool false, e]

/-- A function that `wrap` makes. Its cell holds the thread. -/
def wrapped : Native := fun c cells args => do
  match ← Act.ofState (·.cell (cells[0]?.getD 0)) with
  | .thread id =>
      match ← tryResume c id args with
      | .ok vs => return vs
      | .error e =>
          let hasFailed ← Act.ofState fun s => (s.thread id).failure.isSome
          let e ← if hasFailed then pure ((← c.closeThread id).getD e) else pure e
          match e with
          | .str text =>
              let place ← Act.ofState (·.whereAt 1)
              throw (.raise (.str (place ++ text)))
          | e => throw (.raise e)
  | _ => return []

/-- The name of the functions that `wrap` makes. -/
def wrappedName : String := "coroutine.wrap function"

/-- `wrap`. -/
def wrap : Native := fun _ _ args => do
  let t ← newThread (← Act.function args 1)
  let cell ← Act.update (·.addCell t)
  return [← Act.update (·.addFunction (.native wrappedName #[cell]))]

/-- `yield`. -/
def yield : Control := fun _ _ args => return .yield args

/-- `status`. -/
def status : Native := fun _ _ args => do
  return [.ofString (statusName (← statusOf (← thread args)))]

/-- `running`. -/
def running : Native := fun _ _ _ => do
  let id ← Act.ofState (·.current)
  return [.thread id, .bool (id = 0)]

/-- `isyieldable`. -/
def isyieldable : Native := fun _ _ args => do
  let current ← Act.ofState (·.current)
  let id ← if args.isEmpty then pure current else thread args
  if id = current then return [.bool (← Act.ofState (·.run.mayYield))]
  match ← statusOf id with
  | .normal => return [.bool (← Act.ofState fun s => (s.thread id).activity.mayYield)]
  | _ => return [.bool true]

/-- `close`. -/
def close : Native := fun c _ args => do
  let id ← thread args
  match ← statusOf id with
  | .suspended | .dead => match ← c.closeThread id with
    | none => return [.bool true]
    | some e => return [.bool false, e]
  | other => Act.fail s!"cannot close a {statusName other} coroutine"

/-- The functions and their names. -/
def functions : List (String × Native) :=
  [("close", close), ("create", create), ("isyieldable", isyieldable), ("resume", resume),
   ("running", running), ("status", status), ("wrap", wrap)]

/-- The functions that give control away, and their names. -/
def controls : List (String × Control) := [("yield", yield)]

end LuaShell.Lua.Library.Threads
