import LuaShell.Path.WorkingDirectory
import LuaShell.Proofs.Path.Canonical
import Mathlib

/-!
# Components of absolute paths

An absolute path has the root as a component, and behind it what the parts of its text say
(`spelled`).  Joining a relative text puts its components behind those that are there
(`components_join`), and the path above has one component less (`components_of_parent`), whatever
dots and slashes the paths are written with.
-/

namespace LuaShell

namespace Path

/-- What the parts of a text say. -/
def spelled (bs : List UInt8) : List Component :=
  (parts bs).filterMap component?

variable {p q : Path} {as bs : List UInt8}

theorem components_of_isAbsolute (hp : p.isAbsolute = true) :
    p.components = .root :: spelled p.bytes := by
  simp [components, hp, spelled]

/-- Only what is neither silent nor two dots is a name, and stands for itself. -/
theorem of_component?_eq_name {part n : Name} (hname : component? part = some (.name n)) :
    part = n ∧ n ≠ [] ∧ n ≠ [dot] ∧ n ≠ [dot, dot] := by
  unfold component? at hname
  split at hname
  · cases hname
  · next hloud =>
      split at hname <;> cases hname
      next hdots =>
        obtain ⟨hnil, hdot⟩ : part ≠ [] ∧ part ≠ [dot] := by simpa [isSilent] using hloud
        exact ⟨rfl, hnil, hdot, hdots⟩

theorem isName_of_mem_spelled {bs : List UInt8} {n : Name} (hn : .name n ∈ spelled bs) :
    IsName n := by
  obtain ⟨part, hpart, hname⟩ := List.mem_filterMap.mp hn
  obtain ⟨rfl, hnil, hdot, hdots⟩ := of_component?_eq_name hname
  exact ⟨hnil, no_slash_of_mem_parts hpart, hdot, hdots⟩

/-! ## Joining -/

theorem spelled_nil : spelled [] = [] := rfl

/-- A slash ends a component if there is one before it. -/
theorem spelled_append_slash (as bs : List UInt8) :
    spelled (as ++ slash :: bs) = spelled as ++ spelled bs := by
  rw [spelled, parts_append_slash, List.filterMap_append]
  rfl

theorem spelled_slash_cons (bs : List UInt8) : spelled (slash :: bs) = spelled bs :=
  spelled_append_slash [] bs

theorem spelled_of_no_slash {n : Name} (hn : slash ∉ n) :
    spelled n = (component? n).toList := by
  rw [spelled, parts_of_no_slash hn, List.filterMap_cons, List.filterMap_nil]
  cases component? n <;> rfl

/-- What a relative text says comes behind what is there. -/
theorem components_join (hp : p.isAbsolute = true) (hq : q.isAbsolute = false) :
    (p.join q).components = p.components ++ spelled q.bytes := by
  rw [components_of_isAbsolute hp, components_of_isAbsolute (isAbsolute_join hp q)]
  rw [join, if_neg (by simp [hq])]
  split
  · next hend =>
      -- The slash at the end of `p` is the one in between.
      have hne : p.bytes ≠ [] := by
        obtain ⟨bs, hbs⟩ := isAbsolute_iff.mp hp
        simp [hbs]
      have hend : p.bytes.getLast? = some slash := by simpa [hne] using hend
      obtain ⟨front, hfront⟩ := List.getLast?_eq_some_iff.mp hend
      simp [hfront, spelled_append_slash, spelled_nil]
  · simp [spelled_append_slash]

theorem components_push (hp : p.isAbsolute = true) {n : Name} (hn : slash ∉ n) :
    (p.push n).components = p.components ++ (component? n).toList := by
  have hrel : (Path.mk n).isAbsolute = false := by
    simpa [isAbsolute] using fun h => hn (List.mem_of_head? h)
  rw [push, components_join hp hrel, spelled_of_no_slash hn]

/-! ## The path above -/

/-- Only silent parts are dropped from the end. -/
theorem filterMap_dropSilent (ps : List Name) :
    (dropSilent ps).filterMap component? = ps.filterMap component? := by
  have hsilent : (ps.rtakeWhile isSilent).filterMap component? = [] := by
    rw [List.filterMap_eq_nil_iff]
    intro part hpart
    have hpart : isSilent part = true := List.mem_rtakeWhile_imp hpart
    simp [component?, hpart]
  have hsplit : dropSilent ps ++ ps.rtakeWhile isSilent = ps := List.rdropWhile_append_rtakeWhile
  rw [← congrArg (List.filterMap component?) hsplit, List.filterMap_append, hsilent,
    List.append_nil]

/-- The last part that is kept says something. -/
theorem exists_component?_getLast {ps : List Name} (hne : dropSilent ps ≠ []) :
    ∃ c, component? ((dropSilent ps).getLast hne) = some c := by
  have hloud : ¬ isSilent ((dropSilent ps).getLast hne) = true :=
    List.rdropWhile_last_not isSilent ps hne
  unfold component?
  rw [if_neg hloud]
  split <;> exact ⟨_, rfl⟩

theorem spelled_unparts {ps : List Name} (hps : ∀ part ∈ ps, slash ∉ part) :
    spelled (unparts ps) = ps.filterMap component? := by
  by_cases hnil : ps = []
  · subst hnil
    rfl
  · rw [spelled, parts_unparts hnil hps]

/-- Only the root has nothing above it. -/
theorem components_of_parent_eq_none (hp : p.isAbsolute = true) (habove : p.parent = none) :
    p.components = [.root] := by
  obtain ⟨bs, hbs⟩ := isAbsolute_iff.mp hp
  have hdropped : dropSilent (parts bs) = [] := by
    by_contra hne
    obtain ⟨last, rest, hkept⟩ := List.exists_cons_of_ne_nil hne
    simp [parent, split_of_isAbsolute hp, hbs, hkept] at habove
  have hspelled := filterMap_dropSilent (parts bs)
  rw [hdropped] at hspelled
  rw [components_of_isAbsolute hp, hbs, spelled_slash_cons, spelled, ← hspelled]
  rfl

/-- The path above has one component less. -/
theorem components_of_parent (hp : p.isAbsolute = true) (habove : p.parent = some q) :
    q.isAbsolute = true ∧ q.components = p.components.dropLast ∧ 1 < p.components.length := by
  obtain ⟨bs, hbs⟩ := isAbsolute_iff.mp hp
  have hkept : dropSilent (parts bs) ≠ [] := by
    intro hnil
    simp [parent, split_of_isAbsolute hp, hbs, hnil, slash, dot] at habove
  have hq : q = ⟨slash :: unparts (dropSilent (dropSilent (parts bs)).dropLast)⟩ := by
    obtain ⟨last, rest, hcons⟩ := List.exists_cons_of_ne_nil hkept
    simpa [parent, split_of_isAbsolute hp, hbs, hcons] using habove.symm
  have habs : q.isAbsolute = true := by simp [hq, isAbsolute]
  obtain ⟨c, hc⟩ := exists_component?_getLast hkept
  have hspelled : spelled p.bytes =
      ((dropSilent (parts bs)).dropLast).filterMap component? ++ [c] := by
    rw [hbs, spelled_slash_cons, spelled, ← filterMap_dropSilent]
    conv_lhs => rw [← List.dropLast_append_getLast hkept]
    simp [hc]
  have hparts : ∀ part ∈ dropSilent (dropSilent (parts bs)).dropLast, slash ∉ part := by
    intro part hpart
    have hfront := (List.rdropWhile_prefix isSilent _).subset hpart
    exact no_slash_of_mem_parts ((List.rdropWhile_prefix isSilent _).subset
      (List.dropLast_subset _ hfront))
  have habove : spelled q.bytes = ((dropSilent (parts bs)).dropLast).filterMap component? := by
    rw [hq, spelled_slash_cons, spelled_unparts hparts, filterMap_dropSilent]
  rw [components_of_isAbsolute hp, components_of_isAbsolute habs, hspelled, habove]
  refine ⟨habs, ?_, by simp⟩
  rw [← List.cons_append, List.dropLast_concat]

end Path

end LuaShell
