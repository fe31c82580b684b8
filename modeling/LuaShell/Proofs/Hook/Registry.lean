import LuaShell.Hook.Registry
import Mathlib

/-!
# Names in the registry

A registry is as good as a map from names to callbacks as long as no name stands in it twice
(`Unique`), and neither registering nor taking out a hook changes that.  What each of them does
to the map is said for all names at once (`get?_concat`, `get?_of_take`).
-/

namespace LuaShell.Registry

variable {r r' : Registry} {name : String} {callback : Callback} {hook : Hook}

/-- No name stands in the registry twice. -/
def Unique (r : Registry) : Prop :=
  r.names.Nodup

theorem contains_iff : r.contains name = true ↔ name ∈ r.names := by
  simp [contains, names, List.any_eq_true]

/-! ## Looking up -/

theorem get?_eq_none_iff : r.get? name = none ↔ r.contains name = false := by
  simp [get?, contains]

theorem contains_iff_get? : r.contains name = true ↔ ∃ callback, r.get? name = some callback := by
  rw [← Option.ne_none_iff_exists', ne_eq, get?_eq_none_iff, Bool.not_eq_false]

/-- Whether a name is in a registry is whether something is found under it. -/
theorem contains_congr (hget : r.get? name = r'.get? name) :
    r.contains name = r'.contains name := by
  rw [Bool.eq_iff_iff, contains_iff_get?, contains_iff_get?, hget]

/-- In a registry without repeated names the hooks are what is found. -/
theorem get?_eq_some_iff (hunique : r.Unique) :
    r.get? name = some callback ↔ ⟨name, callback⟩ ∈ r.hooks := by
  unfold get?
  rw [Option.map_eq_some_iff]
  constructor
  · rintro ⟨hook, hfind, rfl⟩
    have hname : hook.name = name := by simpa using List.find?_some hfind
    rw [← hname]
    exact List.mem_of_find?_eq_some hfind
  · intro hmem
    obtain ⟨hook, hfind⟩ : ∃ hook, r.hooks.find? (·.name = name) = some hook :=
      Option.isSome_iff_exists.mp (List.find?_isSome.mpr ⟨_, hmem, by simp⟩)
    have hname : hook.name = name := by simpa using List.find?_some hfind
    -- Two hooks of one name are one hook.
    have hsame : hook = ⟨name, callback⟩ :=
      List.inj_on_of_nodup_map hunique (List.mem_of_find?_eq_some hfind) hmem hname
    exact ⟨hook, hfind, by rw [hsame]⟩

/-! ## Registering -/

theorem register_of_contains (callback : Callback) (hcontains : r.contains name = true) :
    r.register name callback = (false, r) :=
  if_pos hcontains

theorem register_of_absent (callback : Callback) (habsent : r.contains name = false) :
    r.register name callback = (true, ⟨r.hooks ++ [⟨name, callback⟩]⟩) :=
  if_neg (by simp [habsent])

/-- A name that comes later is not there yet. -/
theorem Unique.contains_eq_false {before rest : List Hook}
    (hunique : (⟨before ++ hook :: rest⟩ : Registry).Unique) :
    (⟨before⟩ : Registry).contains hook.name = false := by
  have hnodup : (before.map (·.name) ++ hook.name :: rest.map (·.name)).Nodup := by
    simpa [Unique, names] using hunique
  rw [← Bool.not_eq_true, contains_iff]
  intro hmem
  exact (List.nodup_middle.mp hnodup).notMem (List.mem_append_left _ hmem)

theorem Unique.register (hunique : r.Unique) (name : String) (callback : Callback) :
    (r.register name callback).2.Unique := by
  cases hcontains : r.contains name with
  | true => rwa [register_of_contains callback hcontains]
  | false =>
      rw [register_of_absent callback hcontains]
      have hnew : name ∉ r.names := by
        rw [← contains_iff, hcontains]
        simp
      have hnames : (⟨r.hooks ++ [⟨name, callback⟩]⟩ : Registry).names = r.names ++ [name] := by
        simp [names]
      rw [Unique, hnames, ← List.concat_eq_append]
      exact (List.nodup_concat r.names name).mpr ⟨hnew, hunique⟩

/-- No names are repeated, whatever is registered. -/
theorem unique_ofList (hooks : List (String × Callback)) : (ofList hooks).Unique :=
  List.foldlRecOn hooks _ List.nodup_nil fun _ hunique hook _ => hunique.register hook.1 hook.2

/-- A new hook is found under its name, and nothing else changes. -/
theorem get?_concat (habsent : r.contains name = false) (callback : Callback) (other : String) :
    (⟨r.hooks ++ [⟨name, callback⟩]⟩ : Registry).get? other =
      if other = name then some callback else r.get? other := by
  have hget : (⟨r.hooks ++ [⟨name, callback⟩]⟩ : Registry).get? other =
      (r.get? other).or (if name = other then some callback else none) := by
    simp only [get?, List.find?_append, Option.map_or, List.find?_singleton, decide_eq_true_eq]
    split <;> rfl
  rw [hget]
  by_cases hother : other = name
  · subst hother
    simp [get?_eq_none_iff.2 habsent]
  · simp [hother, Ne.symm hother]

/-! ## Taking out -/

/-- What is taken out is the first hook that the test picks. -/
theorem take_eq_some_iff {test : Hook → Bool} :
    r.take test = some (hook, r') ↔ ∃ before after, r.hooks = before ++ hook :: after ∧
      r'.hooks = before ++ after ∧ test hook = true ∧ ∀ h ∈ before, test h = false := by
  obtain ⟨hooks⟩ := r
  obtain ⟨hooks'⟩ := r'
  have hsplit : ∀ before after, test hook = true → (∀ h ∈ before, test h = false) →
      (before ++ hook :: after).eraseP test = before ++ after := by
    intro before after htest hbefore
    rw [List.eraseP_append_right _ (by simpa using hbefore), List.eraseP_cons_of_pos htest]
  constructor
  · intro htake
    unfold take at htake
    cases hfind : hooks.find? test with
    | none => simp [hfind] at htake
    | some first =>
        simp only [hfind, Option.some.injEq, Prod.mk.injEq, mk.injEq] at htake
        obtain ⟨rfl, rfl⟩ := htake
        obtain ⟨htest, before, after, rfl, hbefore⟩ := List.find?_eq_some_iff_append.mp hfind
        have hbefore' : ∀ h ∈ before, test h = false := by simpa using hbefore
        exact ⟨before, after, rfl, hsplit before after htest hbefore', htest, hbefore'⟩
  · rintro ⟨before, after, rfl, rfl, htest, hbefore⟩
    have hfind : (before ++ hook :: after).find? test = some hook :=
      List.find?_eq_some_iff_append.mpr ⟨htest, before, after, rfl, by simpa using hbefore⟩
    simp only [take, hfind, hsplit before after htest hbefore]

/-- Taking out a hook leaves another registry. -/
theorem ne_of_take {test : Hook → Bool} (htake : r.take test = some (hook, r')) : r' ≠ r := by
  rintro rfl
  obtain ⟨before, after, hhooks, hhooks', -, -⟩ := take_eq_some_iff.1 htake
  have := congrArg List.length (hhooks.symm.trans hhooks')
  simp at this

theorem Unique.of_take {test : Hook → Bool} (hunique : r.Unique)
    (htake : r.take test = some (hook, r')) : r'.Unique := by
  obtain ⟨before, after, hhooks, hhooks', -, -⟩ := take_eq_some_iff.1 htake
  refine List.Nodup.sublist ?_ hunique
  rw [names, names, hhooks, hhooks']
  exact ((List.sublist_cons_self hook after).append_left before).map _

/-- The hook that is taken out was found under its name, and now nothing is; all other names are
as they were. -/
theorem get?_of_take {test : Hook → Bool} (hunique : r.Unique)
    (htake : r.take test = some (hook, r')) :
    r.get? hook.name = some hook.callback ∧ r'.get? hook.name = none ∧
      ∀ other, other ≠ hook.name → r'.get? other = r.get? other := by
  obtain ⟨before, after, hhooks, hhooks', -, -⟩ := take_eq_some_iff.1 htake
  refine ⟨(get?_eq_some_iff hunique).2 (by simp [hhooks]), ?_, fun other hother => ?_⟩
  · rw [get?_eq_none_iff, ← Bool.not_eq_true, contains_iff]
    have hnodup : (before.map (·.name) ++ hook.name :: after.map (·.name)).Nodup := by
      simpa [Unique, names, hhooks] using hunique
    simpa [names, hhooks'] using (List.nodup_middle.mp hnodup).notMem
  · simp [get?, hhooks, hhooks', List.find?_append, Ne.symm hother]

end LuaShell.Registry
