import LuaShell.Proofs.Path.Normalization

/-!
# Steps of longer and shorter paths

Pushing a name is one step more, and the path above takes a part of the steps, whatever
dots and slashes a path is written with.
-/

namespace LuaShell.Path

theorem steps_of_slash {p : Path} {bs : List UInt8} (hp : p.bytes = slash :: bs) :
    p.steps = (parts bs).filter (· ≠ []) := by
  simp [steps, hp, parts]

theorem isAbsolute_push (p : Path) {n : Name} (hslash : slash ∉ n) :
    (p.push n).isAbsolute = p.isAbsolute := by
  have hrel : (Path.mk n).isAbsolute = false := by
    simpa [isAbsolute] using fun h => hslash (List.mem_of_head? h)
  rw [push, isAbsolute_join_eq, hrel, Bool.or_false]

/-- The steps of a relative path come behind those of the path that it is joined to. -/
theorem steps_join (p : Path) {q : Path} (hrel : q.isAbsolute = false) :
    (p.join q).steps = p.steps ++ q.steps := by
  unfold join
  rw [if_neg (by simp [hrel])]
  split
  · next hends =>
      rcases (by simpa using hends : p.bytes = [] ∨ p.bytes.getLast? = some slash) with hnil | hend
      · simp [steps, hnil, parts]
      -- No second slash is put behind one; the part behind it was empty and no step.
      · obtain ⟨bs, hbs⟩ := List.getLast?_eq_some_iff.mp hend
        simp [steps, hbs, parts_append_slash, parts]
  · simp [steps, parts_append_slash]

/-- A name that is pushed is the last step. -/
theorem steps_push (p : Path) {n : Name} (hn : IsName n) : (p.push n).steps = p.steps ++ [n] := by
  have hname : (Path.mk n).steps = [n] := by
    simp [steps, parts_of_no_slash hn.no_slash, hn.ne_nil]
  rw [push, steps_join p (isAbsolute_of_isName hn), hname]

theorem isPrefix_dropSilent (ps : List Name) : dropSilent ps <+: ps := by
  unfold dropSilent
  rw [← List.reverse_suffix, List.reverse_reverse]
  exact List.dropWhile_suffix _

theorem unparts_isPrefix {ps qs : List Name} (hps : ps <+: qs) : unparts ps <+: unparts qs := by
  induction ps generalizing qs with
  | nil => exact List.nil_prefix
  | cons p ps ih =>
      obtain ⟨rest, rfl⟩ := hps
      by_cases hnil : ps = []
      · subst hnil
        cases rest with
        | nil => exact List.prefix_refl _
        | cons r rest => exact List.prefix_append p _
      · rw [List.cons_append, unparts_cons hnil, unparts_cons (by simp [hnil]),
          List.prefix_append_right_inj, List.cons_prefix_cons]
        exact ⟨rfl, ih (List.prefix_append ps rest)⟩

/-- The path above an absolute one is spelled by some of the first parts of its text. -/
theorem of_parent {p q : Path} {bs : List UInt8} (hbs : p.bytes = slash :: bs)
    (hq : p.parent = some q) : ∃ above, above <+: parts bs ∧ q = ⟨slash :: unparts above⟩ := by
  have habs : p.isAbsolute = true := isAbsolute_iff.mpr ⟨bs, hbs⟩
  have hsplit : p.split = ([slash], parts bs) := by
    rw [split_of_isAbsolute habs, hbs]
    rfl
  simp only [parent, hsplit] at hq
  split at hq
  · simp [slash, dot] at hq
  · next last rest hkept =>
      obtain rfl := Option.some.inj hq
      rw [← hkept]
      have hfront : (dropSilent (parts bs)).dropLast <+: dropSilent (parts bs) :=
        List.dropLast_prefix _
      exact ⟨_, (isPrefix_dropSilent _).trans (hfront.trans (isPrefix_dropSilent _)), rfl⟩

/-- The path above an absolute one is absolute, and its steps are a part of the steps. -/
theorem steps_parent {p q : Path} (habs : p.isAbsolute = true) (hq : p.parent = some q) :
    q.isAbsolute = true ∧ q.steps <+: p.steps := by
  obtain ⟨bs, hbs⟩ := isAbsolute_iff.mp habs
  obtain ⟨above, habove, rfl⟩ := of_parent hbs hq
  refine ⟨by simp [isAbsolute], ?_⟩
  have hsteps : (Path.mk (slash :: unparts above)).steps = above.filter (· ≠ []) := by
    rw [steps_of_slash rfl]
    by_cases hnil : above = []
    · simp [hnil, unparts, parts]
    · rw [parts_unparts hnil fun part hpart => no_slash_of_mem_parts (habove.subset hpart)]
  rw [steps_of_slash hbs]
  exact hsteps ▸ habove.filter _

/-- What can be asked of the system can be asked of the path above. -/
theorem refusal?_parent {p q : Path} (habs : p.isAbsolute = true) (hq : p.parent = some q)
    (hp : p.refusal? = none) : q.refusal? = none := by
  obtain ⟨bs, hbs⟩ := isAbsolute_iff.mp habs
  obtain ⟨above, habove, rfl⟩ := of_parent hbs hq
  have hbytes : slash :: unparts above <+: p.bytes := by
    have hspelled := unparts_isPrefix habove
    rw [unparts_parts] at hspelled
    rw [hbs, List.cons_prefix_cons]
    exact ⟨rfl, hspelled⟩
  obtain ⟨hzero, -, hshort⟩ := refusal?_eq_none_iff.mp hp
  exact refusal?_eq_none_iff.mpr ⟨fun h => hzero (hbytes.subset h), by simp,
    hbytes.length_le.trans_lt hshort⟩

/-! ## Paths below a path -/

/-- The path that leads some names down from a path. -/
def down (p : Path) (names : List Name) : Path :=
  names.foldl push p

theorem down_concat (p : Path) (names : List Name) (n : Name) :
    p.down (names ++ [n]) = (p.down names).push n := by
  simp [down]

theorem isAbsolute_down {p : Path} (hp : p.isAbsolute = true) (names : List Name) :
    (p.down names).isAbsolute = true := by
  induction names generalizing p with
  | nil => exact hp
  | cons n names ih => exact ih (isAbsolute_join hp _)

theorem steps_down (p : Path) {names : List Name} (hnames : ∀ n ∈ names, IsName n) :
    (p.down names).steps = p.steps ++ names := by
  induction names generalizing p with
  | nil => simp [down]
  | cons n names ih =>
      rw [List.forall_mem_cons] at hnames
      rw [down, List.foldl_cons, ← down, ih (p.push n) hnames.2, steps_push p hnames.1,
        List.append_assoc, List.singleton_append]

theorem location_down (p : Path) {names : List Name} (hnames : ∀ n ∈ names, IsName n) :
    (p.down names).location = p.location ++ names := by
  rw [location, steps_down p hnames, List.foldl_append, foldl_step_names hnames]
  rfl

end LuaShell.Path
