import LuaShell.Proofs.Path.Dots
import LuaShell.Proofs.Path.Steps
import Mathlib

/-!
# Normal forms

A relative path has a normal form as an absolute one has: the names that are left when its dots are
folded, with a single slash between two of them (`normalize_eq`).  Two dots that have no name before
them go away, at the root and at the beginning of a relative path alike, so the normal form of a
relative path does not say that it led up.

The names and whether the path is absolute are all that the normal form depends on, and both can be
read off its text again.  Hence normalization changes no normal form, and it makes no difference
whether a path is normalized before another one is joined to it (`normal_form_laws`).
-/

namespace LuaShell.Path

/-- The relative path that spells the given names. -/
def ofRelativeNames (names : List Name) : Path :=
  ⟨unparts names⟩

variable {names : List Name} {n : Name} {p q : Path}

/-! ## Relative paths of names -/

theorem isAbsolute_ofRelativeNames (hnames : ∀ n ∈ names, IsName n) :
    (ofRelativeNames names).isAbsolute = false := by
  rw [Bool.eq_false_iff]
  intro habs
  obtain ⟨bs, hbs⟩ := isAbsolute_iff.mp habs
  have hbs : unparts names = slash :: bs := hbs
  have hne : names ≠ [] := by
    rintro rfl
    cases hbs
  -- The first part of the text would be empty.
  have hparts : names = [] :: parts bs := by
    rw [← parts_unparts hne fun n hn => (hnames n hn).no_slash, hbs]
    rfl
  exact (hnames [] (by simp [hparts])).ne_nil rfl

theorem steps_ofRelativeNames (hnames : ∀ n ∈ names, IsName n) :
    (ofRelativeNames names).steps = names := by
  by_cases hne : names = []
  · subst hne
    rfl
  · rw [steps, ofRelativeNames, parts_unparts hne fun n hn => (hnames n hn).no_slash]
    simpa using fun n hn => (hnames n hn).ne_nil

theorem location_ofRelativeNames (hnames : ∀ n ∈ names, IsName n) :
    (ofRelativeNames names).location = names := by
  rw [location, steps_ofRelativeNames hnames, foldl_step_names hnames, List.nil_append]

theorem push_ofRelativeNames (hnames : ∀ n ∈ names, IsName n) (hn : IsName n) :
    (ofRelativeNames names).push n = ofRelativeNames (names ++ [n]) := by
  have hrel : (Path.mk n).isAbsolute = false := isAbsolute_of_isName hn
  by_cases hne : names = []
  · subst hne
    simp [push, join, hrel, ofRelativeNames, unparts]
  · simp [push, join, hrel, ofRelativeNames, unparts_concat hne, unparts_ne_nil hne hnames,
      getLast?_unparts hne hnames]

theorem mem_parts_of_leadsWithDot (hlead : p.leadsWithDot = true) : [dot] ∈ parts p.bytes := by
  obtain ⟨bytes⟩ := p
  rcases bytes with _ | ⟨b, _ | ⟨c, bs⟩⟩
  · cases hlead
  · obtain rfl : b = dot := by simpa [leadsWithDot] using hlead
    decide
  · obtain ⟨rfl, rfl⟩ : b = dot ∧ c = slash := by simpa [leadsWithDot] using hlead
    have hparts : parts (dot :: slash :: bs) = [dot] :: parts bs := parts_append_slash [dot] bs
    simp [hparts]

theorem split_ofRelativeNames (hne : names ≠ []) (hnames : ∀ n ∈ names, IsName n) :
    (ofRelativeNames names).split = ([], names) := by
  have hparts : parts (ofRelativeNames names).bytes = names :=
    parts_unparts hne fun n hn => (hnames n hn).no_slash
  have hdot : ¬ (ofRelativeNames names).leadsWithDot = true := by
    intro hlead
    have hmem := mem_parts_of_leadsWithDot hlead
    rw [hparts] at hmem
    exact (hnames [dot] hmem).ne_dot rfl
  simp [split, isAbsolute_ofRelativeNames hnames, hdot, hparts]

theorem pop_ofRelativeNames (hnames : ∀ n ∈ names, IsName n) :
    (ofRelativeNames names).pop = ofRelativeNames names.dropLast := by
  by_cases hne : names = []
  · subst hne
    decide
  · have hfront : ∀ n ∈ names.dropLast, IsName n := fun n hn =>
      hnames n (List.dropLast_subset _ hn)
    simp only [pop, parent, split_ofRelativeNames hne hnames, dropSilent_names hnames]
    obtain ⟨first, rest, rfl⟩ := List.exists_cons_of_ne_nil hne
    simp [dropSilent_names hfront, ofRelativeNames]

/-! ## The fold -/

/-- Following components from a relative path of names goes the way that they spell. -/
theorem foldl_follow_ofRelativeNames {cs : List Component} (hnames : ∀ n ∈ names, IsName n)
    (hcs : ∀ c ∈ cs, c = .parent ∨ ∃ n, c = .name n ∧ IsName n) :
    cs.foldl follow (ofRelativeNames names) =
      ofRelativeNames (cs.foldl Location.follow names) := by
  -- The text put together so far spells `names`, which every component keeps.
  induction cs generalizing names with
  | nil => rfl
  | cons c cs ih =>
      rw [List.forall_mem_cons] at hcs
      obtain ⟨hc, hrest⟩ := hcs
      rw [List.foldl_cons, List.foldl_cons]
      rcases hc with rfl | ⟨n, rfl, hn⟩
      · have hpop : follow (ofRelativeNames names) .parent = ofRelativeNames names.dropLast :=
          pop_ofRelativeNames hnames
        rw [hpop, Location.follow_parent]
        exact ih (fun m hm => hnames m (List.dropLast_subset _ hm)) hrest
      · have hpush : follow (ofRelativeNames names) (.name n) = ofRelativeNames (names ++ [n]) :=
          push_ofRelativeNames hnames hn
        rw [hpush, Location.follow_name]
        refine ih (fun m hm => ?_) hrest
        rcases List.mem_append.mp hm with hm | hm
        · exact hnames m hm
        · exact List.mem_singleton.mp hm ▸ hn

theorem normalize_of_relative (hrel : p.isAbsolute = false) :
    p.normalize = ofRelativeNames p.location := by
  have hbody : p.normalize = (spelled p.bytes).foldl follow (ofRelativeNames []) := by
    rw [normalize, components, if_neg (by simp [hrel])]
    -- A dot at the beginning says nothing.
    split <;> rfl
  rw [hbody, foldl_follow_ofRelativeNames (by simp), ← location_eq]
  intro c hc
  rcases isHop_of_mem_spelled hc with rfl | ⟨n, rfl⟩
  · exact .inl rfl
  · exact .inr ⟨n, rfl, isName_of_mem_spelled hc⟩

/-- The normal form is written with the names of the location, behind a slash if the path is
absolute. -/
theorem normalize_eq (p : Path) :
    p.normalize = if p.isAbsolute then ofNames p.location else ofRelativeNames p.location := by
  by_cases habs : p.isAbsolute = true
  · rw [if_pos habs, normalize_of_isAbsolute habs]
  · rw [if_neg habs, normalize_of_relative (Bool.eq_false_iff.mpr habs)]

theorem isAbsolute_normalize (p : Path) : p.normalize.isAbsolute = p.isAbsolute := by
  rw [normalize_eq]
  split
  · next habs => rw [isAbsolute_ofNames, habs]
  · next hrel => rw [isAbsolute_ofRelativeNames (isName_location p), Bool.eq_false_iff.mpr hrel]

theorem location_normalize (p : Path) : p.normalize.location = p.location := by
  rw [normalize_eq]
  split
  · exact location_ofNames (isName_location p)
  · exact location_ofRelativeNames (isName_location p)

/-- Paths have one normal form exactly if they lead to one location and start from one place. -/
theorem normalize_eq_iff :
    p.normalize = q.normalize ↔ p.isAbsolute = q.isAbsolute ∧ p.location = q.location := by
  constructor
  · intro hsame
    have habs := congrArg isAbsolute hsame
    have hlocation := congrArg location hsame
    rw [isAbsolute_normalize, isAbsolute_normalize] at habs
    rw [location_normalize, location_normalize] at hlocation
    exact ⟨habs, hlocation⟩
  · rintro ⟨habs, hlocation⟩
    rw [normalize_eq, normalize_eq, habs, hlocation]

/-! ## Joined paths -/

/-- A relative path leads on from the location of the path that it is joined to. -/
theorem location_join (p : Path) (hrel : q.isAbsolute = false) :
    (p.join q).location = q.steps.foldl Location.step p.location := by
  rw [location, steps_join p hrel, List.foldl_append, ← location]

/-- Only the normal form of what is joined to matters for the normal form of the whole. -/
theorem normalize_join_congr (hsame : p.normalize = q.normalize) (r : Path) :
    (p.join r).normalize = (q.join r).normalize := by
  obtain ⟨habs, hlocation⟩ := normalize_eq_iff.mp hsame
  cases hr : r.isAbsolute with
  | true => rw [join_of_isAbsolute p hr, join_of_isAbsolute q hr]
  | false =>
      refine normalize_eq_iff.mpr ⟨?_, ?_⟩
      · rw [isAbsolute_join_eq, isAbsolute_join_eq, habs]
      · rw [location_join p hr, location_join q hr, hlocation]

theorem normalize_normalize (p : Path) : p.normalize.normalize = p.normalize :=
  normalize_eq_iff.mpr ⟨isAbsolute_normalize p, location_normalize p⟩

/-! ## The text -/

theorem bytes_normalize (p : Path) :
    p.normalize.bytes = (if p.isAbsolute then [slash] else []) ++ [slash].intercalate p.location := by
  rw [normalize_eq, ← unparts_eq_intercalate]
  split <;> rfl

/-- The components of a path lead to its location. -/
theorem foldl_follow_components (p : Path) :
    p.components.foldl Location.follow [] = p.location := by
  rw [location_eq, components]
  split
  · rfl
  · split <;> rfl

/-- Normalization changes no normal form, and whether a path is normalized before another one is
joined to it makes no difference. The text of a normal form is that of the names that are left when
the components are followed, with single slashes between them, and with one before them exactly if
the path is absolute. -/
theorem normal_form_laws (a b : Path) :
    let names : List Name := a.components.foldl Location.follow []
    a.normalize.normalize = a.normalize ∧
    (a.join b).normalize = (a.normalize.join b).normalize ∧
    (∀ n ∈ names, IsName n) ∧
    a.normalize.bytes = (if a.isAbsolute then [slash] else []) ++ [slash].intercalate names ∧
    a.normalize.isAbsolute = a.isAbsolute := by
  intro names
  have hnames : names = a.location := foldl_follow_components a
  rw [hnames]
  exact ⟨normalize_normalize a, normalize_join_congr (normalize_normalize a).symm b,
    isName_location a, bytes_normalize a, isAbsolute_normalize a⟩

/-- Dots at the beginning of a relative path have nothing to take away. -/
example : (ofString "../a/./b//../../..c/.").normalize = ofString "..c" := by decide

end LuaShell.Path
