/-!
# Hooks

A hook binds a name to a callback.  The registry keeps hooks in the order in which
they were registered, and no name twice.
-/

namespace LuaShell

/-- A native function that scripts can call, known by its name. -/
structure Callback where
  id : String
  deriving DecidableEq

/-- A name and the callback it is bound to. -/
structure Hook where
  name : String
  callback : Callback
  deriving DecidableEq

/-- The hooks, in the order of registration. -/
structure Registry where
  hooks : List Hook
  deriving DecidableEq

namespace Registry

/-- No hooks. -/
def empty : Registry := ⟨[]⟩

def contains (r : Registry) (name : String) : Bool :=
  r.hooks.any (·.name = name)

/-- The callback of a name. -/
def get? (r : Registry) (name : String) : Option Callback :=
  (r.hooks.find? (·.name = name)).map (·.callback)

def names (r : Registry) : List String :=
  r.hooks.map (·.name)

def size (r : Registry) : Nat :=
  r.hooks.length

def isEmpty (r : Registry) : Bool :=
  r.hooks.isEmpty

/-- Add a hook, unless its name is taken. -/
def register (r : Registry) (name : String) (callback : Callback) : Bool × Registry :=
  if r.contains name then (false, r) else (true, ⟨r.hooks ++ [⟨name, callback⟩]⟩)

/-- Take out the first hook that a test picks. -/
def take (r : Registry) (test : Hook → Bool) : Option (Hook × Registry) :=
  match r.hooks.find? test with
  | none => none
  | some hook => some (hook, ⟨r.hooks.eraseP test⟩)

/-- Take out the hook of a name. -/
def takeName (r : Registry) (name : String) : Option (Hook × Registry) :=
  r.take (·.name = name)

/-- Take out the first hook of a callback. -/
def takeCallback (r : Registry) (callback : Callback) : Option (Hook × Registry) :=
  r.take (·.callback = callback)

/-- Whether something was taken out, and what is left. -/
def afterTaking (r : Registry) : Option (Hook × Registry) → Bool × Registry
  | none => (false, r)
  | some (_, rest) => (true, rest)

/-- Remove the hook of a name. -/
def unregister (r : Registry) (name : String) : Bool × Registry :=
  r.afterTaking (r.takeName name)

/-- Remove the first hook of a callback. -/
def unregisterCallback (r : Registry) (callback : Callback) : Bool × Registry :=
  r.afterTaking (r.takeCallback callback)

/-- Register hooks one after the other. -/
def ofList (hooks : List (String × Callback)) : Registry :=
  hooks.foldl (fun r h => (r.register h.1 h.2).2) empty

end Registry

end LuaShell
