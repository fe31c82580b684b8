import LuaShell.Proofs.Hook.Registry

/-!
# Runs of edits on the registry

After any run of calls on a new registry the hooks are the registrations that were accepted and not
removed since, in the order of their calls (`after_edits`).  Which those are is said of the calls
and their answers alone (`Stands`), with every registration known by the place of its call, so that
a name that is registered again after its removal counts at its new place.

A removal by callback takes the earliest registration that stands.  The list that keeps hooks and
places together (`Lists`) turns that into the first hook of the list and back.
-/

namespace LuaShell.Registry

/-- A call that registers or removes a hook. -/
inductive Edit where
  | register (name : String) (callback : Callback)
  | unregister (name : String)
  | unregisterCallback (callback : Callback)

/-- What a call answers, and the registry after it. -/
def Edit.run : Edit → Registry → Bool × Registry
  | .register name callback, r => r.register name callback
  | .unregister name, r => r.unregister name
  | .unregisterCallback callback, r => r.unregisterCallback callback

/-- A new registry after a run of calls. -/
def after (edits : List Edit) : Registry :=
  edits.foldl (fun r e => (e.run r).2) empty

/-- What the call at a place of the run answers. -/
def answerAt? (edits : List Edit) (n : Nat) : Option Bool :=
  edits[n]?.map fun e => (e.run (after (edits.take n))).1

/-- After the first calls of the run, as many as the number says, the registration that the call at
a place made stands: the call was accepted, and no call since was one that removes it. By its name
a registration is removed whatever stands beside it, by its callback if no earlier one of that
callback stands. -/
def Stands (edits : List Edit) : Nat → Nat → Hook → Prop
  | 0, _, _ => False
  | n + 1, i, hook =>
      i = n ∧ edits[n]? = some (.register hook.name hook.callback) ∧
          answerAt? edits n = some true ∨
        Stands edits n i hook ∧ edits[n]? ≠ some (.unregister hook.name) ∧
          ¬ (edits[n]? = some (.unregisterCallback hook.callback) ∧
            ∀ k other, Stands edits n k other → other.callback = hook.callback → i ≤ k)

/-- The hooks are those of the registrations, in the order of the places. -/
def Lists (standing : Nat → Hook → Prop) (hooks : List Hook) : Prop :=
  ∃ placed : List (Nat × Hook), placed.map (·.2) = hooks ∧
    placed.Pairwise (fun a b => a.1 < b.1) ∧ ∀ i hook, (i, hook) ∈ placed ↔ standing i hook

/-! ## Listing -/

section

variable {standing standing' : Nat → Hook → Prop} {hooks front back : List Hook} {hook : Hook}
  {r r' : Registry} {test : Hook → Bool}

theorem Lists.congr (hlists : Lists standing hooks)
    (hsame : ∀ i hook, standing i hook ↔ standing' i hook) : Lists standing' hooks := by
  obtain ⟨placed, hhooks, hordered, hplaced⟩ := hlists
  exact ⟨placed, hhooks, hordered, fun i hook => (hplaced i hook).trans (hsame i hook)⟩

theorem Lists.mem_iff (hlists : Lists standing hooks) : hook ∈ hooks ↔ ∃ i, standing i hook := by
  obtain ⟨placed, rfl, -, hplaced⟩ := hlists
  simp [← hplaced]

/-- No two registrations have one place. -/
theorem Lists.eq_of_place {i : Nat} {other : Hook} (hlists : Lists standing hooks)
    (hstands : standing i hook) (hother : standing i other) : other = hook := by
  obtain ⟨placed, -, hordered, hplaced⟩ := hlists
  have hplaces : (placed.map (·.1)).Nodup :=
    (List.pairwise_map.mpr hordered).imp Nat.ne_of_lt
  have hsame := List.inj_on_of_nodup_map hplaces ((hplaced i other).mpr hother)
    ((hplaced i hook).mpr hstands) rfl
  exact congrArg (·.2) hsame

/-- No two registrations that stand have one name. -/
theorem Lists.eq_of_name {i k : Nat} {other : Hook} (hlists : Lists standing r.hooks)
    (hunique : r.Unique) (hstands : standing i hook) (hother : standing k other)
    (hname : other.name = hook.name) : k = i := by
  obtain ⟨placed, hhooks, -, hplaced⟩ := hlists
  have hnames : (placed.map (·.2.name)).Nodup := by
    rw [Unique, names, ← hhooks, List.map_map] at hunique
    exact hunique
  have hsame := List.inj_on_of_nodup_map hnames ((hplaced k other).mpr hother)
    ((hplaced i hook).mpr hstands) hname
  exact congrArg (·.1) hsame

/-- A later registration goes to the end. -/
theorem Lists.concat (hlists : Lists standing hooks) {n : Nat}
    (hlater : ∀ i hook, standing i hook → i < n) (new : Hook) :
    Lists (fun i hook => i = n ∧ hook = new ∨ standing i hook) (hooks ++ [new]) := by
  obtain ⟨placed, rfl, hordered, hplaced⟩ := hlists
  refine ⟨placed ++ [(n, new)], by simp, ?_, fun i hook => ?_⟩
  · rw [List.pairwise_append]
    refine ⟨hordered, List.pairwise_singleton _ _, fun a ha b hb => ?_⟩
    obtain rfl := List.mem_singleton.mp hb
    exact hlater a.1 a.2 ((hplaced a.1 a.2).mp ha)
  · rw [List.mem_append, List.mem_singleton, hplaced, Prod.mk.injEq, or_comm]

/-- A hook of the list has a place, and the hooks before it have earlier places. Without it the list
is that of the registrations at all other places. -/
theorem Lists.remove (hlists : Lists standing (front ++ hook :: back)) :
    ∃ i, standing i hook ∧
      (∀ k other, standing k other → other ∈ front ∨ i ≤ k) ∧
      Lists (fun k other => standing k other ∧ k ≠ i) (front ++ back) := by
  obtain ⟨placed, hhooks, hordered, hplaced⟩ := hlists
  obtain ⟨early, rest, rfl, rfl, hrest⟩ := List.map_eq_append_iff.mp hhooks
  obtain ⟨⟨i, _⟩, late, rfl, rfl, rfl⟩ := List.map_eq_cons_iff.mp hrest
  obtain ⟨hearly, hlate, hacross⟩ := List.pairwise_append.mp hordered
  obtain ⟨hbehind, hlate⟩ := List.pairwise_cons.mp hlate
  refine ⟨i, (hplaced _ _).mp (by simp), fun k other hstands => ?_,
    early ++ late, by simp, ?_, fun k other => ?_⟩
  · have hmem := (hplaced k other).mpr hstands
    simp only [List.mem_append, List.mem_cons, Prod.mk.injEq] at hmem
    rcases hmem with hmem | ⟨rfl, -⟩ | hmem
    · exact .inl (List.mem_map_of_mem (f := (·.2)) hmem)
    · exact .inr (Nat.le_refl _)
    · exact .inr (Nat.le_of_lt (hbehind _ hmem))
  · exact List.pairwise_append.mpr
      ⟨hearly, hlate, fun a ha b hb => hacross a ha b (List.mem_cons_of_mem _ hb)⟩
  · simp only [← hplaced, List.mem_append, List.mem_cons, Prod.mk.injEq]
    constructor
    · rintro (hmem | hmem)
      · exact ⟨.inl hmem, (hacross _ hmem _ List.mem_cons_self).ne⟩
      · exact ⟨.inr (.inr hmem), (hbehind _ hmem).ne'⟩
    · rintro ⟨hmem | ⟨rfl, -⟩ | hmem, hne⟩
      · exact .inl hmem
      · exact absurd rfl hne
      · exact .inr hmem

/-- Taking out the first hook of a test takes out the earliest registration of that test. -/
theorem Lists.take (hlists : Lists standing r.hooks) (htake : r.take test = some (hook, r')) :
    ∃ i, standing i hook ∧ test hook = true ∧
      (∀ k other, standing k other → test other = true → i ≤ k) ∧
      Lists (fun k other => standing k other ∧ k ≠ i) r'.hooks := by
  obtain ⟨front, back, hhooks, hhooks', htest, hfront⟩ := take_eq_some_iff.mp htake
  rw [hhooks] at hlists
  obtain ⟨i, hstands, hearliest, hrest⟩ := hlists.remove
  refine ⟨i, hstands, htest, fun k other hother hpicked => ?_, hhooks' ▸ hrest⟩
  refine (hearliest k other hother).resolve_left fun hmem => ?_
  rw [hfront other hmem] at hpicked
  cases hpicked

end

/-! ## Calls -/

theorem take_eq_none_iff {r : Registry} {test : Hook → Bool} :
    r.take test = none ↔ ∀ hook ∈ r.hooks, test hook = false := by
  unfold take
  cases hfind : r.hooks.find? test with
  | none => simpa using hfind
  | some hook =>
      refine iff_of_false (by simp) fun hnone => ?_
      have htest := hnone hook (List.mem_of_find?_eq_some hfind)
      rw [List.find?_some hfind] at htest
      cases htest

theorem unique_after (edits : List Edit) : (after edits).Unique := by
  refine List.foldlRecOn edits _ List.nodup_nil fun r hunique e _ => ?_
  cases e with
  | register name callback => exact hunique.register name callback
  | unregister name =>
      simp only [Edit.run, unregister, takeName]
      cases htake : r.take (·.name = name) with
      | none => exact hunique
      | some taken => exact hunique.of_take htake
  | unregisterCallback callback =>
      simp only [Edit.run, unregisterCallback, takeCallback]
      cases htake : r.take (·.callback = callback) with
      | none => exact hunique
      | some taken => exact hunique.of_take htake

section

variable {edits : List Edit} {n i : Nat} {hook : Hook} {name : String} {callback : Callback}

theorem after_take_succ {e : Edit} (he : edits[n]? = some e) :
    after (edits.take (n + 1)) = (e.run (after (edits.take n))).2 := by
  rw [after, List.take_add_one, he, Option.toList_some, List.foldl_concat]
  rfl

theorem answerAt?_eq {e : Edit} (he : edits[n]? = some e) :
    answerAt? edits n = some (e.run (after (edits.take n))).1 := by
  rw [answerAt?, he, Option.map_some]

/-- What stands was registered by one of the calls. -/
theorem Stands.lt (hstands : Stands edits n i hook) : i < n := by
  induction n with
  | zero => exact hstands.elim
  | succ n ih =>
      rcases hstands with ⟨rfl, -⟩ | ⟨hstands, -⟩
      · exact Nat.lt_succ_self _
      · exact Nat.lt_succ_of_lt (ih hstands)

theorem stands_register (he : edits[n]? = some (.register name callback)) :
    Stands edits (n + 1) i hook ↔
      i = n ∧ hook = ⟨name, callback⟩ ∧ answerAt? edits n = some true ∨ Stands edits n i hook := by
  obtain ⟨name', callback'⟩ := hook
  simp only [Stands, he, Option.some.injEq, Edit.register.injEq, Hook.mk.injEq, ne_eq, reduceCtorEq,
    not_false_eq_true, false_and, and_true, @eq_comm _ name, @eq_comm _ callback]

theorem stands_unregister (he : edits[n]? = some (.unregister name)) :
    Stands edits (n + 1) i hook ↔ Stands edits n i hook ∧ hook.name ≠ name := by
  simp only [Stands, he, Option.some.injEq, Edit.unregister.injEq, reduceCtorEq, false_and,
    and_false, not_false_eq_true, and_true, false_or, ne_eq, @eq_comm _ name]

theorem stands_unregisterCallback (he : edits[n]? = some (.unregisterCallback callback)) :
    Stands edits (n + 1) i hook ↔ Stands edits n i hook ∧
      ¬ (hook.callback = callback ∧
        ∀ k other, Stands edits n k other → other.callback = callback → i ≤ k) := by
  simp only [Stands, he, Option.some.injEq, Edit.unregisterCallback.injEq, reduceCtorEq, false_and,
    and_false, not_false_eq_true, true_and, false_or, ne_eq]
  refine and_congr_right fun _ => not_congr ?_
  constructor
  · rintro ⟨rfl, hearliest⟩
    exact ⟨rfl, hearliest⟩
  · rintro ⟨rfl, hearliest⟩
    exact ⟨rfl, hearliest⟩

/-- One call keeps the list to the registrations that stand. -/
theorem lists_succ {e : Edit} (he : edits[n]? = some e)
    (hlists : Lists (Stands edits n) (after (edits.take n)).hooks) :
    Lists (Stands edits (n + 1)) (after (edits.take (n + 1))).hooks := by
  have hanswer := answerAt?_eq he
  have hunique := unique_after (edits.take n)
  rw [after_take_succ he]
  generalize after (edits.take n) = r at hlists hanswer hunique
  cases e with
  | register name callback =>
      simp only [Edit.run] at hanswer ⊢
      cases hcontains : r.contains name with
      | true =>
          rw [register_of_contains callback hcontains] at hanswer ⊢
          exact hlists.congr fun i hook => by simp [stands_register he, hanswer]
      | false =>
          rw [register_of_absent callback hcontains] at hanswer ⊢
          refine (hlists.concat (fun _ _ => Stands.lt) ⟨name, callback⟩).congr fun i hook => ?_
          simp [stands_register he, hanswer]
  | unregister name =>
      simp only [Edit.run, unregister, takeName]
      cases htake : r.take (·.name = name) with
      | none =>
          have hnone := take_eq_none_iff.mp htake
          refine hlists.congr fun i hook => ?_
          rw [stands_unregister he, iff_self_and]
          exact fun hstands => by simpa using hnone hook (hlists.mem_iff.mpr ⟨i, hstands⟩)
      | some taken =>
          obtain ⟨i, hstands, htest, -, hrest⟩ := hlists.take htake
          refine hrest.congr fun k other => ?_
          rw [stands_unregister he]
          refine and_congr_right fun hother => not_congr ?_
          have hname : taken.1.name = name := by simpa using htest
          constructor
          · rintro rfl
            rw [hlists.eq_of_place hstands hother, hname]
          · intro hsame
            exact hlists.eq_of_name hunique hstands hother (hsame.trans hname.symm)
  | unregisterCallback callback =>
      simp only [Edit.run, unregisterCallback, takeCallback]
      cases htake : r.take (·.callback = callback) with
      | none =>
          have hnone := take_eq_none_iff.mp htake
          refine hlists.congr fun i hook => ?_
          rw [stands_unregisterCallback he, iff_self_and]
          rintro hstands ⟨hpicked, -⟩
          simpa [hpicked] using hnone hook (hlists.mem_iff.mpr ⟨i, hstands⟩)
      | some taken =>
          obtain ⟨i, hstands, htest, hearliest, hrest⟩ := hlists.take htake
          refine hrest.congr fun k other => ?_
          rw [stands_unregisterCallback he]
          refine and_congr_right fun hother => not_congr ?_
          have hcallback : taken.1.callback = callback := by simpa using htest
          constructor
          · rintro rfl
            rw [hlists.eq_of_place hstands hother]
            exact ⟨hcallback, fun k' other' hother' hsame => hearliest k' other' hother' (by simpa)⟩
          · rintro ⟨hsame, hfirst⟩
            exact Nat.le_antisymm (hfirst i taken.1 hstands hcallback)
              (hearliest k other hother (by simpa))

theorem lists_take (hn : n ≤ edits.length) :
    Lists (Stands edits n) (after (edits.take n)).hooks := by
  induction n with
  | zero => exact ⟨[], rfl, List.Pairwise.nil, fun i hook => by simp [Stands]⟩
  | succ n ih => exact lists_succ (List.getElem?_eq_getElem hn) (ih (Nat.le_of_succ_le hn))

end

/-! ## What the calls are -/

/-- What is asked of the registry and done to it, said of its hooks alone. -/
structure IsOrderedMap (r : Registry) : Prop where
  /-- No name occurs twice. -/
  nodup : (r.hooks.map (·.name)).Nodup
  /-- A name that is there is not registered again. -/
  register_present : ∀ name callback, (∃ hook ∈ r.hooks, hook.name = name) →
    r.register name callback = (false, r)
  /-- A name that is not there goes to the end. -/
  register_absent : ∀ name callback, (∀ hook ∈ r.hooks, hook.name ≠ name) →
    r.register name callback = (true, ⟨r.hooks ++ [⟨name, callback⟩]⟩)
  /-- The hook of a name is removed, and no other. -/
  unregister_present : ∀ name, (∃ hook ∈ r.hooks, hook.name = name) →
    r.unregister name = (true, ⟨r.hooks.filter (·.name ≠ name)⟩)
  unregister_absent : ∀ name, (∀ hook ∈ r.hooks, hook.name ≠ name) →
    r.unregister name = (false, r)
  /-- The first hook of a callback is removed, and no other. -/
  unregisterCallback_present : ∀ callback front hook back, r.hooks = front ++ hook :: back →
    hook.callback = callback → (∀ h ∈ front, h.callback ≠ callback) →
      r.unregisterCallback callback = (true, ⟨front ++ back⟩)
  unregisterCallback_absent : ∀ callback, (∀ hook ∈ r.hooks, hook.callback ≠ callback) →
    r.unregisterCallback callback = (false, r)
  contains_iff : ∀ name, r.contains name = true ↔ ∃ hook ∈ r.hooks, hook.name = name
  get?_iff : ∀ name callback, r.get? name = some callback ↔ ⟨name, callback⟩ ∈ r.hooks
  names_eq : r.names = r.hooks.map (·.name)
  size_eq : r.size = r.hooks.length
  isEmpty_iff : r.isEmpty = true ↔ r.hooks = []

/-- Without repeated names the hooks of other names are those around the one of the name. -/
theorem filter_of_unique {r : Registry} (hunique : r.Unique) {front back : List Hook} {hook : Hook}
    {name : String} (hhooks : r.hooks = front ++ hook :: back)
    (hname : decide (hook.name = name) = true)
    (hfront : ∀ h ∈ front, decide (h.name = name) = false) :
    front ++ back = r.hooks.filter (·.name ≠ name) := by
  obtain rfl := of_decide_eq_true hname
  have hnodup : (front.map (·.name) ++ hook.name :: back.map (·.name)).Nodup := by
    simpa [Unique, names, hhooks] using hunique
  have hback : hook.name ∉ back.map (·.name) := fun hmem =>
    (List.nodup_middle.mp hnodup).notMem (List.mem_append_right _ hmem)
  have hkeptFront : front.filter (·.name ≠ hook.name) = front :=
    List.filter_eq_self.mpr fun h hmem => by simpa using hfront h hmem
  have hkeptBack : back.filter (·.name ≠ hook.name) = back :=
    List.filter_eq_self.mpr fun h hmem => by
      have hother : h.name ≠ hook.name := fun hsame => hback (hsame ▸ List.mem_map_of_mem hmem)
      simpa using hother
  rw [hhooks, List.filter_append, List.filter_cons_of_neg (by simp), hkeptFront, hkeptBack]

/-- A registry without repeated names is an ordered map. -/
theorem Unique.isOrderedMap {r : Registry} (hunique : r.Unique) : r.IsOrderedMap := by
  have hcontains : ∀ name, r.contains name = true ↔ ∃ hook ∈ r.hooks, hook.name = name := by
    intro name
    simp [contains]
  have habsent : ∀ name, (∀ hook ∈ r.hooks, hook.name ≠ name) → r.contains name = false := by
    intro name hnone
    rw [← Bool.not_eq_true, hcontains]
    rintro ⟨hook, hmem, hname⟩
    exact hnone hook hmem hname
  refine ⟨hunique, ?_, ?_, ?_, ?_, ?_, ?_, hcontains, fun _ _ => get?_eq_some_iff hunique, rfl, rfl,
    List.isEmpty_iff⟩
  · exact fun name callback hpresent => register_of_contains callback ((hcontains name).mpr hpresent)
  · exact fun name callback hnone => register_of_absent callback (habsent name hnone)
  · rintro name ⟨hook, hmem, hname⟩
    have htaken : r.takeName name ≠ none := fun hnone =>
      absurd (take_eq_none_iff.mp hnone hook hmem) (by simpa using hname)
    obtain ⟨⟨hook, rest⟩, htake⟩ := Option.ne_none_iff_exists'.mp htaken
    obtain ⟨front, back, hhooks, hhooks', htest, hfront⟩ := take_eq_some_iff.mp htake
    rw [unregister, htake, afterTaking, ← filter_of_unique hunique hhooks htest hfront, ← hhooks']
  · intro name hnone
    have htake : r.takeName name = none := take_eq_none_iff.mpr (by simpa using hnone)
    rw [unregister, htake]
    rfl
  · intro callback front hook back hhooks hcallback hfront
    have htake : r.takeCallback callback = some (hook, ⟨front ++ back⟩) :=
      take_eq_some_iff.mpr ⟨front, back, hhooks, rfl, by simpa using hcallback, by simpa using hfront⟩
    rw [unregisterCallback, htake]
    rfl
  · intro callback hnone
    have htake : r.takeCallback callback = none := take_eq_none_iff.mpr (by simpa using hnone)
    rw [unregisterCallback, htake]
    rfl

/-- After any run of calls on a new registry its hooks are the registrations that were accepted and
not removed since, in the order of registration, and each call does what it does to an ordered map
without repeated names. -/
theorem after_edits (edits : List Edit) :
    Lists (Stands edits edits.length) (after edits).hooks ∧ (after edits).IsOrderedMap := by
  refine ⟨?_, (unique_after edits).isOrderedMap⟩
  have hlists := lists_take (Nat.le_refl edits.length)
  rwa [List.take_length] at hlists

/-- A name that is registered again after its removal stands at its new place, so the callback is
taken from the other name first. -/
example : (after [.register "a" ⟨"f"⟩, .register "b" ⟨"f"⟩, .unregister "a", .register "a" ⟨"f"⟩,
    .unregisterCallback ⟨"f"⟩]).names = ["a"] := by
  decide

end LuaShell.Registry
