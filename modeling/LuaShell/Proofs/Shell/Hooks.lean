import LuaShell.Proofs.Script.Outcome
import LuaShell.Proofs.Shell.HookChange
import Mathlib

/-!
# Hooks and globals

Globals without a metatable take every assignment.  Then the registry and the globals stay in step
through any run of changes, with scripts in between that assign no globals (`hooks_in_step`).

What is asked of the engine is collected in `Engine.PlainGlobals`: it is what an assignment, a
new function and a change of the host do to globals and to functions that exist already.  The
step lemma is `InStep.edit`, for one edit and its assignment.  Building a shell is a run of such
edits from the empty registry on (`InStep.bindAll`), and so is every change later on
(`InStep.change`).
-/

namespace LuaShell

open Lua (Value)

variable {ε χ : Type}

/-! ## Globals -/

/-- What can be told of a machine without running anything. -/
structure HookView (ε : Type) where
  /-- Its globals have no metatable. -/
  Plain : Machine ε → Prop
  /-- The value is a function that was made for the callback. -/
  Made : Machine ε → Value → Callback → Prop

namespace HookView

/-- On the way from one machine to another the globals stay plain, and functions what they are. -/
structure Follows (view : HookView ε) (m m' : Machine ε) : Prop where
  plain : view.Plain m'
  made : ∀ {v callback}, view.Made m v callback → view.Made m' v callback

theorem Follows.trans {view : HookView ε} {m m' m'' : Machine ε} (h : view.Follows m m')
    (h' : view.Follows m' m'') : view.Follows m m'' where
  plain := h'.plain
  made hmade := h'.made (h.made hmade)

end HookView

namespace Engine

section

variable (E : Engine ε χ) (act : Callback → List Value → Machine ε → Answer ε (List Value))

/-- Calling a value is carrying out a callback: on the same host, with the same arguments, and
with the same answer, where a failure comes wrapped. -/
def Dispatches (m : Machine ε) (v : Value) (callback : Callback) : Prop :=
  ∀ arguments, ∃ inside : Machine ε, inside.host = m.host ∧
    (E.call v arguments m).2.host = (act callback arguments inside).2.host ∧
    match (act callback arguments inside).1 with
    | .ok values => (E.call v arguments m).1 = .ok values
    | .error e => ∃ e', e.Wraps e' ∧ (E.call v arguments m).1 = .error e'

end

section

variable (E : Engine ε χ) (act : Callback → List Value → Machine ε → Answer ε (List Value))
  (view : HookView ε)

/-- What a global is while its name has a callback, or has none any more. -/
def Shows (m : Machine ε) (name : String) : Option Callback → Prop
  | some callback => ∃ id, E.global name m = .ok (.func id) ∧ view.Made m (.func id) callback ∧
      E.Dispatches act m (.func id) callback
  | none => E.global name m = .ok .nil

/-- What globals without a metatable are like, and functions that are made for callbacks; `act` is
what callbacks do. -/
structure PlainGlobals : Prop where
  /-- Assigning nil or such a function is not refused, and changes the one global only. -/
  assign : ∀ {m v} (name), view.Plain m → (v = .nil ∨ ∃ callback, view.Made m v callback) →
    (E.setGlobal name v m).1 = .ok () ∧ view.Follows m (E.setGlobal name v m).2 ∧
    ∀ other, E.global other (E.setGlobal name v m).2 =
      if other = name then .ok v else E.global other m
  /-- A function for a callback is a new one, so that it is no global yet. -/
  make : ∀ {m} (callback), view.Plain m → ∃ id, (E.makeHook callback m).1 = .func id ∧
    view.Made (E.makeHook callback m).2 (.func id) callback ∧
    view.Follows m (E.makeHook callback m).2 ∧
    E.SameGlobals m (E.makeHook callback m).2 ∧ ∀ name, E.global name m ≠ .ok (.func id)
  /-- A function does what its callback does. -/
  dispatches : ∀ {m v callback}, view.Plain m → view.Made m v callback →
    E.Dispatches act m v callback
  /-- Globals and functions do not depend on the host. -/
  host : ∀ {m} (f), view.Plain m → view.Follows m (m.mapHost f) ∧ E.SameGlobals m (m.mapHost f)

end

variable {E : Engine ε χ} {act : Callback → List Value → Machine ε → Answer ε (List Value)}
  {view : HookView ε} {m m' : Machine ε}

theorem Shows.mono (laws : E.PlainGlobals act view) {name : String} {callback? : Option Callback}
    (hshows : E.Shows act view m name callback?) (hfollows : view.Follows m m')
    (hsame : E.global name m' = E.global name m) : E.Shows act view m' name callback? := by
  cases callback? with
  | none => exact hsame.trans hshows
  | some callback =>
      obtain ⟨id, hglobal, hmade, -⟩ := hshows
      have hmade' := hfollows.made hmade
      exact ⟨id, hsame.trans hglobal, hmade', laws.dispatches hfollows.plain hmade'⟩

end Engine

/-- The assignment of an edit on plain globals: it is not refused, its name shows what it is to
show, which is nothing that was there before unless that is nil, and no other global changes. -/
theorem HookEdit.assign_spec {E : Engine ε χ}
    {act : Callback → List Value → Machine ε → Answer ε (List Value)} {view : HookView ε}
    {m : Machine ε} (laws : E.PlainGlobals act view) (edit : HookEdit) (hplain : view.Plain m) :
    (edit.assign E m).1 = .ok () ∧ view.Follows m (edit.assign E m).2 ∧
      E.Shows act view (edit.assign E m).2 edit.name edit.callback? ∧
      (E.global edit.name (edit.assign E m).2 = E.global edit.name m → edit.callback? = none) ∧
      ∀ other, other ≠ edit.name →
        E.global other (edit.assign E m).2 = E.global other m := by
  obtain ⟨name, callback?, registry⟩ := edit
  cases callback? with
  | none =>
      obtain ⟨hok, hfollows, hglobal⟩ := laws.assign name hplain (.inl rfl)
      refine ⟨hok, hfollows, ?_, fun _ => rfl, fun other hother => ?_⟩
      · exact (hglobal name).trans (if_pos rfl)
      · exact (hglobal other).trans (if_neg hother)
  | some callback =>
      obtain ⟨id, hvalue, hmade, hkept, hsame, hnew⟩ := laws.make callback hplain
      obtain ⟨hok, hfollows, hglobal⟩ := laws.assign name hkept.plain (.inr ⟨callback, hmade⟩)
      have hassign : (HookEdit.mk name (some callback) registry).assign E m =
          E.setGlobal name (.func id) (E.makeHook callback m).2 := by
        simp only [HookEdit.assign, HookEdit.value, hvalue]
      have hhere := (hglobal name).trans (if_pos rfl)
      rw [hassign]
      have hmade' := hfollows.made hmade
      refine ⟨hok, hkept.trans hfollows,
        ⟨id, hhere, hmade', laws.dispatches hfollows.plain hmade'⟩, ?_, ?_⟩
      · intro hunchanged
        exact absurd (hunchanged.symm.trans hhere) (hnew name)
      · intro other hother
        exact ((hglobal other).trans (if_neg hother)).trans (hsame other)

/-! ## In step -/

section

variable (E : Engine ε χ) (act : Callback → List Value → Machine ε → Answer ε (List Value))
  (view : HookView ε)

/-- The registry and the globals say the same, when the globals were once those of `initial` and
the names that have had a callback since then are the `bound` ones. -/
structure InStep (initial : Machine ε) (bound : String → Prop) (r : Registry)
    (m : Machine ε) : Prop where
  held : ∀ name callback, r.get? name = some callback →
    bound name ∧ ∃ id, E.global name m = .ok (.func id) ∧ view.Made m (.func id) callback ∧
      E.Dispatches act m (.func id) callback
  gone : ∀ name, bound name → r.get? name = none → E.global name m = .ok .nil
  untouched : ∀ name, ¬ bound name → E.global name m = E.global name initial

/-- A change tells the truth about what it has done, and what it has done is about one name. -/
structure HookChange.Exact (c : HookChange) (s : Shell ε) : Prop where
  answers : (c.apply E s).1 = .ok true ∨ (c.apply E s).1 = .ok false
  done_iff : (c.apply E s).1 = .ok true ↔ (c.apply E s).2.registry ≠ s.registry ∧
    ¬ E.SameGlobals s.machine (c.apply E s).2.machine
  nothing_iff : (c.apply E s).1 = .ok false ↔ (c.apply E s).2.registry = s.registry ∧
    E.SameGlobals s.machine (c.apply E s).2.machine
  others : ∀ other, some other ≠ (c.edit? s.registry).map (·.name) →
    (c.apply E s).2.registry.get? other = s.registry.get? other ∧
      E.global other (c.apply E s).2.machine = E.global other s.machine

/-- A shell after some changes of its hooks, with all registries it has had, the last one first.
In between scripts may do what they like, except for assigning globals or giving them a
metatable. -/
inductive HookRun (start : Shell ε) : List Registry → Shell ε → Prop
  | start : HookRun start [start.registry] start
  | change {history : List Registry} {s : Shell ε} (hrun : HookRun start history s)
      (c : HookChange) :
      HookRun start ((c.apply E s).2.registry :: history) (c.apply E s).2
  | script {history : List Registry} {s : Shell ε} (hrun : HookRun start history s)
      {m : Machine ε} (hfollows : view.Follows s.machine m)
      (hsame : E.SameGlobals s.machine m) :
      HookRun start history { s with machine := m }

end

/-- Some registry has had the name. -/
def BoundIn (history : List Registry) (name : String) : Prop :=
  ∃ r ∈ history, r.contains name = true

section

variable {E : Engine ε χ} {act : Callback → List Value → Machine ε → Answer ε (List Value)}
  {view : HookView ε} {initial m m' : Machine ε} {bound bound' : String → Prop}
  {r : Registry}

theorem InStep.bound_of_contains (h : InStep E act view initial bound r m) {name : String}
    (hname : r.contains name = true) : bound name := by
  obtain ⟨callback, hget⟩ := Registry.contains_iff_get?.mp hname
  exact (h.held name callback hget).1

theorem InStep.shows (h : InStep E act view initial bound r m) {name : String}
    (hbound : bound name) : E.Shows act view m name (r.get? name) := by
  cases hget : r.get? name with
  | none => exact h.gone name hbound hget
  | some callback => exact (h.held name callback hget).2

/-- To be in step is to show what the registry says under all names that were bound at some
time. -/
theorem InStep.of_shows (hbound : ∀ name, r.contains name = true → bound name)
    (hshows : ∀ name, bound name → E.Shows act view m name (r.get? name))
    (huntouched : ∀ name, ¬ bound name → E.global name m = E.global name initial) :
    InStep E act view initial bound r m where
  held name callback hget := by
    have hname := hbound name (Registry.contains_iff_get?.mpr ⟨callback, hget⟩)
    have := hshows name hname
    rw [hget] at this
    exact ⟨hname, this⟩
  gone name hname hget := by
    have := hshows name hname
    rwa [hget] at this
  untouched := huntouched

/-- Scripts that assign no globals leave everything in step. -/
theorem InStep.script (h : InStep E act view initial bound r m) (laws : E.PlainGlobals act view)
    (hfollows : view.Follows m m') (hsame : E.SameGlobals m m') :
    InStep E act view initial bound r m' := by
  refine .of_shows (fun name hname => ?_) (fun name hname => ?_) (fun name hname => ?_)
  · exact h.bound_of_contains hname
  · exact (h.shows hname).mono laws hfollows (hsame name)
  · exact (hsame name).trans (h.untouched name hname)

/-- An edit with its assignment leaves everything in step, and its name has been bound. -/
theorem InStep.edit (h : InStep E act view initial bound r m) (laws : E.PlainGlobals act view)
    (hplain : view.Plain m) {edit : HookEdit}
    (hget : edit.registry.get? edit.name = edit.callback?)
    (hothers : ∀ other, other ≠ edit.name → edit.registry.get? other = r.get? other)
    (hbound' : ∀ name, bound' name ↔ bound name ∨ name = edit.name) :
    InStep E act view initial bound' edit.registry (edit.assign E m).2 := by
  obtain ⟨-, hfollows, hshows, -, hsame⟩ := edit.assign_spec laws hplain
  refine .of_shows (fun name hname => ?_) (fun name hname => ?_) (fun name hname => ?_)
  · -- All other names were in the registry before, so they have been bound before.
    rw [hbound', or_iff_not_imp_right]
    intro hother
    rw [Registry.contains_congr (hothers name hother)] at hname
    exact h.bound_of_contains hname
  · by_cases hother : name = edit.name
    · rw [hother, hget]
      exact hshows
    · rw [hothers name hother]
      have hbefore : bound name := ((hbound' name).mp hname).resolve_right hother
      exact (h.shows hbefore).mono laws hfollows (hsame name hother)
  · obtain ⟨hbefore, hother⟩ := not_or.mp (mt (hbound' name).mpr hname)
    exact (hsame name hother).trans (h.untouched name hbefore)

/-- Hooks that are bound one after the other are in step in the end. -/
theorem InStep.bindAll (laws : E.PlainGlobals act view) (rest : List Hook) :
    ∀ (before : List Hook) (m : Machine ε), view.Plain m → (⟨before ++ rest⟩ : Registry).Unique →
      InStep E act view initial ((⟨before⟩ : Registry).contains · = true) ⟨before⟩ m →
      ∃ m', Shell.bindAll E rest m = (.ok (), m') ∧ view.Plain m' ∧
        InStep E act view initial ((⟨before ++ rest⟩ : Registry).contains · = true)
          ⟨before ++ rest⟩ m' := by
  -- After each hook the ones up to it make a registry, which the globals are in step with.
  induction rest with
  | nil =>
      intro before m hplain _ h
      rw [List.append_nil]
      exact ⟨m, rfl, hplain, h⟩
  | cons hook rest ih =>
      intro before m hplain hunique h
      let edit : HookEdit := ⟨hook.name, some hook.callback, ⟨before ++ [hook]⟩⟩
      have hall : before ++ hook :: rest = (before ++ [hook]) ++ rest := by simp
      have hget := Registry.get?_concat hunique.contains_eq_false hook.callback
      obtain ⟨hok, hfollows, -, -, -⟩ := edit.assign_spec laws hplain
      have hedit : InStep E act view initial (edit.registry.contains · = true) edit.registry
          (edit.assign E m).2 :=
        h.edit laws hplain ((hget hook.name).trans (if_pos rfl))
          (fun other hother => (hget other).trans (if_neg hother))
          (fun name => by simp [Registry.contains_iff, Registry.names, edit, or_comm])
      have hbind : Shell.bind E hook.name hook.callback m = (.ok (), (edit.assign E m).2) := by
        rw [HookEdit.bind_eq_assign E hook.name hook.callback edit.registry, hok]
        rfl
      rw [hall] at hunique ⊢
      obtain ⟨m', hrest, hplain', h'⟩ := ih _ _ hfollows.plain hunique hedit
      refine ⟨m', ?_, hplain', h'⟩
      rw [Shell.bindAll, hbind]
      exact hrest

/-- The hooks of a shell that has been built are in step. -/
theorem InStep.build (laws : E.PlainGlobals act view) (hunique : r.Unique) (hplain : view.Plain m)
    (runShell : Bool) :
    ∃ built, Shell.build E r runShell m = (.ok (), ⟨built, r, runShell⟩) ∧ view.Plain built ∧
      InStep E act view m (BoundIn [r]) r built := by
  have hempty : InStep E act view m ((⟨[]⟩ : Registry).contains · = true) ⟨[]⟩ m := by
    refine .of_shows (fun _ hname => hname) (fun name hname => ?_) (fun _ _ => rfl)
    cases hname
  obtain ⟨m', hbound, hplain', h'⟩ :=
    InStep.bindAll laws r.hooks [] m hplain hunique hempty
  have hlogged := laws.host (·.record .debug "luash::shell" s!"bound {r.size} hooks") hplain'
  refine ⟨_, ?_, hlogged.1.plain, ?_⟩
  · unfold Shell.build
    rw [hbound]
  · -- So far there has been one registry only.
    have hnames : BoundIn [r] = (r.contains · = true) := by
      funext name
      simp [BoundIn]
    rw [hnames]
    exact h'.script laws hlogged.1 hlogged.2

/-- A change that means nothing for the registry means nothing for the globals. -/
theorem HookChange.declined_follows (laws : E.PlainGlobals act view) (hplain : view.Plain m)
    (c : HookChange) : view.Follows m (c.declined m) ∧ E.SameGlobals m (c.declined m) := by
  cases c with
  | add name callback => exact laws.host _ hplain
  | remove name => exact laws.host id hplain
  | removeCallback callback => exact laws.host id hplain

/-- On plain globals a change that means something for the registry is done and answers true. -/
theorem HookChange.apply_of_plain (laws : E.PlainGlobals act view) {c : HookChange} {s : Shell ε}
    {edit : HookEdit} (hplain : view.Plain s.machine) (hedit : c.edit? s.registry = some edit) :
    c.apply E s = (.ok true,
      { s with machine := (edit.assign E s.machine).2, registry := edit.registry }) := by
  rw [apply_of_edit hedit, (edit.assign_spec laws hplain).1]
  rfl

/-- After an edit its name has been bound at some time, and no others than before. -/
theorem HookEdit.boundIn_iff {history : List Registry} {edit : HookEdit}
    (hheld : ∀ name, r.contains name = true → BoundIn history name)
    (hget : edit.registry.get? edit.name = edit.callback?)
    (hdiffers : r.get? edit.name ≠ edit.callback?)
    (hothers : ∀ other, other ≠ edit.name → edit.registry.get? other = r.get? other)
    (name : String) :
    BoundIn (edit.registry :: history) name ↔ BoundIn history name ∨ name = edit.name := by
  constructor
  · rintro ⟨r', hr', hname⟩
    rcases List.mem_cons.mp hr' with rfl | hr'
    · rw [or_iff_not_imp_right]
      intro hother
      rw [Registry.contains_congr (hothers name hother)] at hname
      exact hheld name hname
    · exact .inl ⟨r', hr', hname⟩
  · rintro (⟨r', hr', hname⟩ | rfl)
    · exact ⟨r', List.mem_cons_of_mem _ hr', hname⟩
    · -- The name is in the registry afterwards if it is added, and was in it before if it is
      -- removed.
      cases hcallback : edit.callback? with
      | some callback =>
          rw [hcallback] at hget
          exact ⟨_, List.mem_cons_self, Registry.contains_iff_get?.mpr ⟨callback, hget⟩⟩
      | none =>
          rw [hcallback, Option.ne_none_iff_exists'] at hdiffers
          obtain ⟨r', hr', hname⟩ := hheld _ (Registry.contains_iff_get?.mpr hdiffers)
          exact ⟨r', List.mem_cons_of_mem _ hr', hname⟩

/-- A change keeps the hooks in step. -/
theorem InStep.change (laws : E.PlainGlobals act view) {history : List Registry} {s : Shell ε}
    (hplain : view.Plain s.machine) (hunique : s.registry.Unique)
    (h : InStep E act view initial (BoundIn history) s.registry s.machine) (c : HookChange) :
    view.Plain (c.apply E s).2.machine ∧ (c.apply E s).2.registry.Unique ∧
      InStep E act view initial (BoundIn ((c.apply E s).2.registry :: history))
        (c.apply E s).2.registry (c.apply E s).2.machine := by
  cases hedit : c.edit? s.registry with
  | none =>
      rw [HookChange.apply_of_none hedit]
      -- The same registry once more: its names have been bound already.
      have hsame : BoundIn (s.registry :: history) = BoundIn history := by
        funext name
        simpa [BoundIn] using h.bound_of_contains
      rw [hsame]
      obtain ⟨hfollows, hglobals⟩ := c.declined_follows laws hplain
      exact ⟨hfollows.plain, hunique, h.script laws hfollows hglobals⟩
  | some edit =>
      rw [HookChange.apply_of_plain laws hplain hedit]
      obtain ⟨hunique', hget, hdiffers, hothers⟩ := HookChange.edit?_spec hunique hedit
      refine ⟨(edit.assign_spec laws hplain).2.1.plain, hunique', ?_⟩
      exact h.edit laws hplain hget hothers
        (edit.boundIn_iff (fun _ => h.bound_of_contains) hget hdiffers hothers)

/-- While the hooks are in step a change does all of what it says, or nothing. -/
theorem InStep.exact (laws : E.PlainGlobals act view) {s : Shell ε} (hplain : view.Plain s.machine)
    (hunique : s.registry.Unique) (h : InStep E act view initial bound s.registry s.machine)
    (c : HookChange) : c.Exact E s := by
  cases hedit : c.edit? s.registry with
  | none =>
      have happly := HookChange.apply_of_none (E := E) hedit
      have hsame := (c.declined_follows laws hplain).2
      constructor <;> simp [happly, hsame, hsame _]
  | some edit =>
      have happly := HookChange.apply_of_plain laws hplain hedit
      obtain ⟨-, hget, hdiffers, hothers⟩ := HookChange.edit?_spec hunique hedit
      obtain ⟨-, -, hshows, hnew, hsame⟩ := edit.assign_spec laws hplain
      have hregistry : edit.registry ≠ s.registry := by
        -- The name of the edit has another callback.
        rintro heq
        rw [heq] at hget
        exact hdiffers hget
      have hglobal : ¬ E.SameGlobals s.machine (edit.assign E s.machine).2 := by
        intro hall
        -- Only what becomes nil could have been there before, but a function was.
        have hnone := hnew (hall edit.name)
        rw [hnone] at hshows hdiffers
        obtain ⟨callback, hcallback⟩ := Option.ne_none_iff_exists'.mp hdiffers
        obtain ⟨-, id, hfunction, -⟩ := h.held edit.name callback hcallback
        have := (hall edit.name).symm.trans hshows
        rw [hfunction] at this
        cases this
      refine ⟨.inl ?_, ?_, ?_, ?_⟩
      · rw [happly]
      · simp [happly, hregistry, hglobal]
      · simp [happly, hregistry]
      · intro other hother
        have hname : other ≠ edit.name := by simpa [hedit] using hother
        rw [happly]
        exact ⟨hothers other hname, hsame other hname⟩

/-- All shells of a run are plain and in step. -/
theorem HookRun.inStep (laws : E.PlainGlobals act view) {start s : Shell ε}
    {history : List Registry} (hrun : HookRun E view start history s)
    (hplain : view.Plain start.machine) (hunique : start.registry.Unique)
    (h : InStep E act view initial (BoundIn [start.registry]) start.registry start.machine) :
    view.Plain s.machine ∧ s.registry.Unique ∧
      InStep E act view initial (BoundIn history) s.registry s.machine := by
  induction hrun with
  | start => exact ⟨hplain, hunique, h⟩
  | change _ c ih => exact InStep.change laws ih.1 ih.2.1 ih.2.2 c
  | script _ hfollows hsame ih => exact ⟨hfollows.plain, ih.2.1, ih.2.2.script laws hfollows hsame⟩

/-- The registry and the globals stay in step.  A shell can be built with any registry, and after
any run of changes a name in the registry is a function that does what its callback does, a
name that was in it at some time is nil, and all other globals are as they were at first.  The
answer of each change says whether it has changed both or neither, and it is about one name. -/
theorem hooks_in_step (laws : E.PlainGlobals act view) {registry : Registry}
    (hunique : registry.Unique) {m : Machine ε} (hplain : view.Plain m) (runShell : Bool) :
    ∃ built, Shell.build E registry runShell m = (.ok (), built) ∧ built.registry = registry ∧
      ∀ history s, HookRun E view built history s → s.registry.Unique ∧
        InStep E act view m (BoundIn history) s.registry s.machine ∧
        ∀ c : HookChange, c.Exact E s := by
  obtain ⟨built, hbuild, hbuilt, hstart⟩ := InStep.build laws hunique hplain runShell
  refine ⟨_, hbuild, rfl, fun history s hrun => ?_⟩
  obtain ⟨hplain', hunique', h⟩ := hrun.inStep laws hbuilt hunique hstart
  exact ⟨hunique', h, fun c => h.exact laws hplain' hunique' c⟩

end

/-! ## Globals as a list -/

namespace Slate

/-- The globals are not strict, and those that are functions are there. -/
def view : HookView Slate where
  Plain m := m.engine.strict? = none ∧
    ∀ name id, m.engine.get name = .func id → id < m.engine.functions.length
  Made m v callback := ∃ id, v = .func id ∧ m.engine.functions[id]? = some callback

theorem set_of_plain {s : Slate} (hplain : s.strict? = none) (name : String) (v : Value) :
    s.set name v = (.ok (), { s with globals := (name, v) :: s.globals }) := by
  unfold set
  rw [hplain]

theorem get_cons (s : Slate) (name other : String) (v : Value) :
    ({ s with globals := (name, v) :: s.globals } : Slate).get other =
      if other = name then v else s.get other := by
  unfold get
  rw [List.lookup_cons]
  by_cases hother : other = name
  · simp [hother]
  · simp [hother, beq_false_of_ne hother]

/-- Its globals are plain as long as they are not strict. -/
theorem plainGlobals (act : Callback → List Value → Machine Slate → Answer Slate (List Value)) :
    (engine act).PlainGlobals act view where
  assign := by
    intro m v name ⟨hstrict, hthere⟩ hv
    have hset := set_of_plain hstrict name v
    have hglobals := get_cons m.engine name
    refine ⟨congrArg (·.1) hset, ⟨⟨?_, ?_⟩, ?_⟩, ?_⟩
    · simp only [engine, hset]
      exact hstrict
    · intro other id hother
      simp only [engine, hset, hglobals] at hother ⊢
      split at hother
      · rcases hv with rfl | ⟨callback, id', rfl, hid⟩
        · cases hother
        · cases hother
          exact (List.getElem?_eq_some_iff.mp hid).1
      · exact hthere other id hother
    · intro v' callback hmade
      simpa only [view, engine, hset] using hmade
    · intro other
      simp only [Engine.global, engine, hset, hglobals, apply_ite Except.ok]
  make := by
    intro m callback ⟨hstrict, hthere⟩
    refine ⟨_, rfl, ⟨_, rfl, by simp [engine]⟩, ⟨⟨hstrict, ?_⟩, ?_⟩, fun _ => rfl, ?_⟩
    · intro name id hid
      simpa [engine] using Nat.lt_succ_of_lt (hthere name id hid)
    · rintro v callback' ⟨id, rfl, hid⟩
      refine ⟨id, rfl, ?_⟩
      simp only [engine]
      rw [List.getElem?_append_left (List.getElem?_eq_some_iff.mp hid).1]
      exact hid
    · intro name hname
      exact absurd (hthere name _ (Except.ok.inj hname)) (Nat.lt_irrefl _)
  dispatches := by
    rintro m v callback - ⟨id, rfl, hid⟩ arguments
    refine ⟨m, rfl, ?_, ?_⟩ <;> simp only [engine, hid] <;>
      rcases act callback arguments m with ⟨_ | _, _⟩
    · rfl
    · rfl
    · exact ⟨_, .callback _ .refl, rfl⟩
    · rfl
  host f hplain := ⟨⟨hplain, fun hmade => hmade⟩, fun _ => rfl⟩

end Slate

/-- Two hooks share a callback, and one of them has the name of a global of the engine.  Removing
the callback takes out the first one, whose name was given in vain a second time; the global of
the engine does not come back. -/
theorem hooks_in_step_with_aliases :
    let act : Callback → List Value → Machine Slate → Answer Slate (List Value) :=
      fun callback arguments m => (.ok arguments, m.mapHost (·.printLine callback.id))
    let E := Slate.engine act
    let h : Host := ⟨.empty, [], ⟨Path.ofString "/", none⟩, .plain, .unsupported, .off, [], .empty,
      .empty, #[], 0, 0⟩
    let m : Machine Slate :=
      ⟨h, ⟨[("print", .func 0), ("_VERSION", .ofString "Lua 5.4")], [⟨"own"⟩], none⟩⟩
    let registry := Registry.ofList [("print", ⟨"say"⟩), ("greet", ⟨"say"⟩), ("print", ⟨"other"⟩)]
    let built := (Shell.build E registry true m).2
    let removal : HookChange := .removeCallback ⟨"say"⟩
    let s := (removal.apply E built).2
    E.PlainGlobals act Slate.view ∧ registry.Unique ∧ Slate.view.Plain m ∧
      (removal.apply E built).1 = .ok true ∧ E.global "print" s.machine = .ok .nil ∧
      (∃ id, E.global "greet" s.machine = .ok (.func id) ∧
        E.Dispatches act s.machine (.func id) ⟨"say"⟩) ∧
      E.global "_VERSION" s.machine = .ok (.ofString "Lua 5.4") := by
  intro act E h m registry built removal s
  have laws : E.PlainGlobals act Slate.view := Slate.plainGlobals act
  have hunique : registry.Unique := Registry.unique_ofList _
  have hplain : Slate.view.Plain m := by
    refine ⟨rfl, fun name id hid => ?_⟩
    simp only [m, Slate.get, List.lookup_cons] at hid
    split at hid
    · cases hid
      exact Nat.zero_lt_one
    · split at hid <;> cases hid
  obtain ⟨built', hbuild, hregistry, hall⟩ := hooks_in_step laws hunique hplain true
  obtain rfl : built = built' := congrArg (·.2) hbuild
  obtain ⟨-, -, hall_start⟩ := hall _ _ .start
  have hexact := hall_start removal
  obtain ⟨-, hstep, -⟩ := hall _ _ (HookRun.start.change removal)
  refine ⟨laws, hunique, hplain, ?_, ?_, ?_, ?_⟩
  · refine hexact.answers.resolve_right fun hnothing => ?_
    exact absurd (hexact.nothing_iff.mp hnothing).1 (by decide)
  · exact hstep.gone "print" ⟨registry, by simp [← hregistry], by decide⟩ (by decide)
  · obtain ⟨-, id, hgreet, -, hdispatches⟩ := hstep.held "greet" ⟨"say"⟩ (by decide)
    exact ⟨id, hgreet, hdispatches⟩
  · refine hstep.untouched "_VERSION" ?_
    rintro ⟨r, hr, hname⟩
    rcases List.mem_pair.mp hr with rfl | rfl <;> exact absurd hname (by decide)

end LuaShell
