import LuaShell.Proofs.Hook.Registry
import LuaShell.Proofs.Lua.Globals
import LuaShell.Shell.Basic
import Mathlib

/-!
# Changes of the hooks

The registry says which hooks there are, and the globals of the engine are what scripts see of
them.  Three operations change both while the shell runs, and each of them is one edit of the
registry followed by one assignment (`HookChange.apply_of_edit`).

The assignment may be refused, by a metatable of the globals.  The registry has been edited by
then and stays so: a change is atomic exactly if its assignment is not refused
(`change_atomic_iff`).  Without a metatable it never is (`HookEdit.assign_ok_of_plain`).
-/

namespace LuaShell

open Lua (Value)

variable {ε χ : Type}

/-! ## Changes -/

/-- A change of the hooks while the shell runs. -/
inductive HookChange where
  | add (name : String) (callback : Callback)
  | remove (name : String)
  /-- Of all hooks of the callback the first one is removed. -/
  | removeCallback (callback : Callback)

/-- What becomes of one name: its callback from now on, and the registry with that. -/
structure HookEdit where
  name : String
  callback? : Option Callback
  registry : Registry

namespace HookEdit

variable (E : Engine ε χ) (edit : HookEdit)

/-- What the global of the name is to be: a new function, or nil. -/
def value (m : Machine ε) : Value × Machine ε :=
  match edit.callback? with
  | some callback => E.makeHook callback m
  | none => (.nil, m)

/-- Assign the global of the name. -/
def assign (m : Machine ε) : Answer ε Unit :=
  E.setGlobal edit.name (edit.value E m).1 (edit.value E m).2

/-- To bind a callback is the assignment of an edit. -/
theorem bind_eq_assign (name : String) (callback : Callback) (r : Registry) (m : Machine ε) :
    Shell.bind E name callback m =
      (((⟨name, some callback, r⟩ : HookEdit).assign E m).1.mapError .engine,
        ((⟨name, some callback, r⟩ : HookEdit).assign E m).2) := rfl

end HookEdit

namespace HookChange

/-- Carry out a change. -/
def apply (E : Engine ε χ) : HookChange → Shell ε → Shell.Result ε Bool
  | add name callback => Shell.addHook E name callback
  | remove name => Shell.removeHook E name
  | removeCallback callback => Shell.removeHookCallback E callback

/-- What a change means for a registry: a name that is taken is not given again, and only a hook
that is there can be removed. -/
def edit? : HookChange → Registry → Option HookEdit
  | add name callback, r =>
      if r.contains name then none
      else some ⟨name, some callback, ⟨r.hooks ++ [⟨name, callback⟩]⟩⟩
  | remove name, r => (r.takeName name).map fun taken => ⟨taken.1.name, none, taken.2⟩
  | removeCallback callback, r =>
      (r.takeCallback callback).map fun taken => ⟨taken.1.name, none, taken.2⟩

/-- What a change makes of the machine that means nothing for the registry: it is recorded that a
name is taken, and nothing else. -/
def declined : HookChange → Machine ε → Machine ε
  | add name _, m => Shell.nameTaken name m
  | remove _, m | removeCallback _, m => m

variable {E : Engine ε χ} {c : HookChange} {s : Shell ε}

/-- A change that means nothing for the registry answers false and leaves it as it is. -/
theorem apply_of_none (hedit : c.edit? s.registry = none) :
    c.apply E s = (.ok false, { s with machine := c.declined s.machine }) := by
  cases c with
  | add name callback =>
      have htaken : s.registry.contains name = true := by simpa [edit?] using hedit
      simp only [apply, Shell.addHook, Registry.register_of_contains callback htaken, declined]
  | remove name =>
      simp only [apply, Shell.removeHook, Option.map_eq_none_iff.mp hedit, Shell.finishRemoval,
        declined]
  | removeCallback callback =>
      simp only [apply, Shell.removeHookCallback, Option.map_eq_none_iff.mp hedit,
        Shell.finishRemoval, declined]

/-- Otherwise the registry is edited, and the answer is that of the assignment. -/
theorem apply_of_edit {edit : HookEdit} (hedit : c.edit? s.registry = some edit) :
    c.apply E s = (((edit.assign E s.machine).1.mapError .engine).map fun _ => true,
      { s with machine := (edit.assign E s.machine).2, registry := edit.registry }) := by
  cases c with
  | add name callback =>
      cases hcontains : s.registry.contains name with
      | true => simp [edit?, hcontains] at hedit
      | false =>
          simp only [edit?, hcontains, Bool.false_eq_true, if_false, Option.some.injEq] at hedit
          subst hedit
          simp only [apply, Shell.addHook, Registry.register_of_absent callback hcontains]
          rfl
  | remove name =>
      obtain ⟨taken, htaken, rfl⟩ := Option.map_eq_some_iff.mp hedit
      simp only [apply, Shell.removeHook, htaken, Shell.finishRemoval]
      rfl
  | removeCallback callback =>
      obtain ⟨taken, htaken, rfl⟩ := Option.map_eq_some_iff.mp hedit
      simp only [apply, Shell.removeHookCallback, htaken, Shell.finishRemoval]
      rfl

/-- An edit either adds a hook whose name is free, or takes one out. -/
theorem edit?_cases {r : Registry} {edit : HookEdit} (hedit : c.edit? r = some edit) :
    (∃ callback, edit.callback? = some callback ∧ r.contains edit.name = false ∧
      edit.registry = ⟨r.hooks ++ [⟨edit.name, callback⟩]⟩) ∨
    (edit.callback? = none ∧ ∃ test hook, r.take test = some (hook, edit.registry) ∧
      hook.name = edit.name) := by
  cases c with
  | add name callback =>
      cases hcontains : r.contains name with
      | true => simp [edit?, hcontains] at hedit
      | false =>
          simp only [edit?, hcontains, Bool.false_eq_true, if_false, Option.some.injEq] at hedit
          subst hedit
          exact .inl ⟨callback, rfl, hcontains, rfl⟩
  | remove name =>
      obtain ⟨taken, htaken, rfl⟩ := Option.map_eq_some_iff.mp hedit
      exact .inr ⟨rfl, _, taken.1, htaken, rfl⟩
  | removeCallback callback =>
      obtain ⟨taken, htaken, rfl⟩ := Option.map_eq_some_iff.mp hedit
      exact .inr ⟨rfl, _, taken.1, htaken, rfl⟩

/-- An edit is one of the registry as a map: one name has another callback from now on, or none,
and all other names have what they had. -/
theorem edit?_spec {r : Registry} {edit : HookEdit} (hunique : r.Unique)
    (hedit : c.edit? r = some edit) :
    edit.registry.Unique ∧ edit.registry.get? edit.name = edit.callback? ∧
      r.get? edit.name ≠ edit.callback? ∧
      ∀ other, other ≠ edit.name → edit.registry.get? other = r.get? other := by
  rcases edit?_cases hedit with ⟨callback, hcallback, habsent, hregistry⟩ |
    ⟨hcallback, test, hook, htake, hname⟩
  · have hget := Registry.get?_concat habsent callback
    have hunique' := hunique.register edit.name callback
    rw [Registry.register_of_absent callback habsent] at hunique'
    rw [hregistry, hcallback]
    refine ⟨hunique', (hget edit.name).trans (if_pos rfl), ?_, fun other hother => ?_⟩
    · rw [Registry.get?_eq_none_iff.mpr habsent]
      exact (Option.some_ne_none callback).symm
    · exact (hget other).trans (if_neg hother)
  · obtain ⟨hfound, hgone, hothers⟩ := Registry.get?_of_take hunique htake
    rw [hname] at hfound hgone hothers
    rw [hcallback, hfound]
    exact ⟨hunique.of_take htake, hgone, Option.some_ne_none hook.callback, hothers⟩

end HookChange

/-! ## Refused assignments -/

namespace Engine

/-- The value of a global. -/
def global (E : Engine ε χ) (name : String) (m : Machine ε) : Except EngineError Value :=
  (E.getGlobal name m).1

/-- No global changes from one machine to another. -/
def SameGlobals (E : Engine ε χ) (m m' : Machine ε) : Prop :=
  ∀ name, E.global name m' = E.global name m

end Engine

namespace HookChange

variable {E : Engine ε χ} {c : HookChange} {s : Shell ε}

/-- If the change fails, the registry and all globals are as they were. -/
def Atomic (E : Engine ε χ) (c : HookChange) (s : Shell ε) : Prop :=
  ∀ e, (c.apply E s).1 = .error e → (c.apply E s).2.registry = s.registry ∧
    E.SameGlobals s.machine (c.apply E s).2.machine

/-- A change fails exactly when its assignment is refused. -/
theorem apply_eq_error_iff {e : ShellError} :
    (c.apply E s).1 = .error e ↔ ∃ edit cause, c.edit? s.registry = some edit ∧
      (edit.assign E s.machine).1 = .error cause ∧ e = .engine cause := by
  cases hedit : c.edit? s.registry with
  | none => simp [apply_of_none hedit]
  | some edit =>
      rw [apply_of_edit hedit]
      cases hassign : (edit.assign E s.machine).1 with
      | ok => simp [hassign, Except.mapError, Except.map]
      | error cause => simp [hassign, Except.mapError, Except.map, eq_comm]

/-- An edit changes the registry. -/
theorem edit?_registry_ne {r : Registry} {edit : HookEdit} (hedit : c.edit? r = some edit) :
    edit.registry ≠ r := by
  rcases edit?_cases hedit with ⟨callback, -, -, hregistry⟩ | ⟨-, test, hook, htake, -⟩
  · -- There is one hook more.
    intro heq
    have hhooks := congrArg Registry.hooks (hregistry.symm.trans heq)
    simp at hhooks
  · exact Registry.ne_of_take htake

/-- When the assignment is refused, the change fails with the registry edited. -/
theorem apply_of_refused {edit : HookEdit} {e : EngineError}
    (hedit : c.edit? s.registry = some edit)
    (hassign : (edit.assign E s.machine).1 = .error e) :
    (c.apply E s).1 = .error (.engine e) ∧ (c.apply E s).2.registry = edit.registry ∧
      edit.registry ≠ s.registry := by
  refine ⟨apply_eq_error_iff.mpr ⟨edit, e, hedit, hassign, rfl⟩, ?_, edit?_registry_ne hedit⟩
  rw [apply_of_edit hedit]

end HookChange

/-- A change is atomic exactly if its assignment is not refused.  When it is refused, the registry
has been edited before and stays so. -/
theorem change_atomic_iff (E : Engine ε χ) (c : HookChange) (s : Shell ε) :
    (c.Atomic E s ↔ ∀ edit, c.edit? s.registry = some edit →
      (edit.assign E s.machine).1.isOk = true) ∧
    ∀ edit e, c.edit? s.registry = some edit → (edit.assign E s.machine).1 = .error e →
      (c.apply E s).1 = .error (.engine e) ∧ (c.apply E s).2.registry = edit.registry ∧
        edit.registry ≠ s.registry := by
  refine ⟨⟨fun hatomic edit hedit => ?_, fun hassigned e herror => ?_⟩,
    fun edit e => HookChange.apply_of_refused⟩
  · cases hassign : (edit.assign E s.machine).1 with
    | ok => rfl
    | error e =>
        obtain ⟨herror, hregistry, hne⟩ := HookChange.apply_of_refused hedit hassign
        exact absurd (hregistry.symm.trans (hatomic _ herror).1) hne
  · -- With no refusal there is no failure to speak of.
    obtain ⟨edit, cause, hedit, hassign, -⟩ := HookChange.apply_eq_error_iff.mp herror
    have hok := hassigned edit hedit
    rw [hassign] at hok
    cases hok

/-- In Lua no assignment of a hook is refused while the globals have no metatable. -/
theorem HookEdit.assign_ok_of_plain (dispatch : Lua.Dispatch) (edit : HookEdit) {m : Lua.World}
    (hplain : (m.engine.table m.engine.globals).metatable = none) :
    (edit.assign (Lua.Interpreter.engine dispatch) m).1 = .ok () := by
  obtain ⟨name, callback?, registry⟩ := edit
  cases callback? with
  | none =>
      have hset := Lua.Interpreter.setGlobal_of_plain (h := m.host) dispatch hplain name .nil
      exact congrArg (·.1) hset
  | some callback =>
      -- A new function changes no table.
      let made := (m.engine.addFunction (.hook callback)).2
      have hmade : (made.table made.globals).metatable = none := hplain
      have hset := Lua.Interpreter.setGlobal_of_plain (h := m.host) dispatch hmade name
        (.func m.engine.functions.size)
      exact congrArg (·.1) hset

/-! ## Globals as a list -/

/-- The state of an engine whose globals are a list, the last assignment first. -/
structure Slate where
  globals : List (String × Value)
  functions : List Callback
  /-- What a metatable of the globals raises when a name is assigned that is nil. -/
  strict? : Option EngineError

namespace Slate

def get (s : Slate) (name : String) : Value :=
  (s.globals.lookup name).getD .nil

def set (s : Slate) (name : String) (v : Value) : Except EngineError Unit × Slate :=
  match s.strict?, s.get name with
  | some e, .nil => (.error e, s)
  | _, _ => (.ok (), { s with globals := (name, v) :: s.globals })

/-- An engine that runs no chunks. -/
def engine (act : Callback → List Value → Machine Slate → Answer Slate (List Value)) :
    Engine Slate Unit where
  compile _ _ := .ok ()
  run _ m := (.ok [], m)
  call v arguments m :=
    match v with
    | .func id => match m.engine.functions[id]? with
      | some callback => match act callback arguments m with
        | (.ok values, m) => (.ok values, m)
        | (.error e, m) => (.error (.callback EngineError.marker e), m)
      | none => (.error (.runtime "attempt to call a function that is gone"), m)
    | v => (.error (.runtime s!"attempt to call a {v.typeName} value"), m)
  getGlobal name m := (.ok (m.engine.get name), m)
  setGlobal name v m := ((m.engine.set name v).1, { m with engine := (m.engine.set name v).2 })
  makeHook callback m :=
    (.func m.engine.functions.length,
      { m with engine := { m.engine with functions := m.engine.functions ++ [callback] } })
  makeTable _ m := (.nil, m)
  entries _ _ := []

end Slate

/-- Strict globals refuse a new name, and the registry has it all the same. -/
theorem add_not_atomic_on_strict_globals :
    let E := Slate.engine fun _ arguments m => (.ok arguments, m)
    let h : Host := ⟨.empty, [], ⟨Path.ofString "/", none⟩, .plain, .unsupported, .off, [], .empty,
      .empty, #[], 0, 0⟩
    let s : Shell Slate := ⟨⟨h, ⟨[], [], some (.runtime "strict")⟩⟩, .empty, true⟩
    let c : HookChange := .add "greet" ⟨"say"⟩
    (c.apply E s).1 = .error (.engine (.runtime "strict")) ∧
      s.registry.hooks = [] ∧ (c.apply E s).2.registry.hooks = [⟨"greet", ⟨"say"⟩⟩] ∧
      E.global "greet" (c.apply E s).2.machine = .ok .nil ∧ ¬ c.Atomic E s := by
  intro E h s c
  have herror : (c.apply E s).1 = .error (.engine (.runtime "strict")) := rfl
  have hregistry : (c.apply E s).2.registry.hooks = [⟨"greet", ⟨"say"⟩⟩] := rfl
  refine ⟨herror, rfl, hregistry, rfl, fun hatomic => ?_⟩
  rw [(hatomic _ herror).1] at hregistry
  cases hregistry

end LuaShell
