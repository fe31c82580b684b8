import LuaShell.Proofs.Path.Components
import LuaShell.Proofs.Path.WorkingDirectory

/-!
# Walking up and two dots

Walking up takes components off the end of the directory as it is written, and a path of two dots so
many times takes names off the location that all of it leads to.  Both end at the same location
exactly if no component that is taken off is itself two dots, or the root is reached
(`take_location_eq_iff`).  A directory that was reached by a path has no dots in it, and neither has
one above a directory without (`up_agrees_with_dots`).
-/

namespace LuaShell

/-- Where a component leads from a location if no link is in the way. -/
def Location.follow (l : Location) : Component → Location
  | .root => []
  | .current => l
  | .parent => l.dropLast
  | .name n => l ++ [n]

@[simp]
theorem Location.follow_parent (l : Location) : l.follow .parent = l.dropLast := rfl

@[simp]
theorem Location.follow_name (l : Location) (n : Name) : l.follow (.name n) = l ++ [n] := rfl

namespace Path

open WorkingDirectory (walkUp)

/-! ## Locations of components -/

section Follow

variable {l : Location} {cs : List Component} {c : Component}

/-- One of the components that a text spells behind a slash. -/
def IsHop (c : Component) : Prop :=
  c = .parent ∨ ∃ n, c = .name n

theorem isHop_of_mem_spelled {bs : List UInt8} (hc : c ∈ spelled bs) : IsHop c := by
  obtain ⟨part, -, hcomponent⟩ := List.mem_filterMap.mp hc
  unfold component? at hcomponent
  split at hcomponent
  · cases hcomponent
  · split at hcomponent <;> cases hcomponent
    · exact .inl rfl
    · exact .inr ⟨_, rfl⟩

theorem length_foldl_follow_le (l : Location) (hcs : ∀ c ∈ cs, IsHop c) :
    (cs.foldl Location.follow l).length ≤ l.length + cs.length := by
  induction cs generalizing l with
  | nil => simp
  | cons c cs ih =>
      rw [List.forall_mem_cons] at hcs
      have hstep : (l.follow c).length ≤ l.length + 1 := by
        rcases hcs.1 with rfl | ⟨n, rfl⟩ <;> simp
        omega
      have hrest := ih (l.follow c) hcs.2
      rw [List.foldl_cons, List.length_cons]
      omega

/-- Names are put behind the location. -/
theorem foldl_follow_names (l : Location) (hcs : ∀ c ∈ cs, IsHop c) (hup : .parent ∉ cs) :
    ∃ names, cs.foldl Location.follow l = l ++ names ∧ names.length = cs.length := by
  induction cs generalizing l with
  | nil => exact ⟨[], by simp⟩
  | cons c cs ih =>
      rw [List.forall_mem_cons] at hcs
      rw [List.mem_cons, not_or] at hup
      obtain ⟨n, rfl⟩ := hcs.1.resolve_left (Ne.symm hup.1)
      obtain ⟨names, hfold, hlength⟩ := ih (l.follow (.name n)) hcs.2 hup.2
      refine ⟨n :: names, ?_, by simp [hlength]⟩
      rw [List.foldl_cons, hfold, Location.follow_name, List.append_assoc, List.singleton_append]

/-- Two dots put nothing behind the location. -/
theorem length_foldl_follow_lt (l : Location) (hcs : ∀ c ∈ cs, IsHop c) (hup : .parent ∈ cs) :
    (cs.foldl Location.follow l).length < l.length + cs.length := by
  induction cs generalizing l with
  | nil => cases hup
  | cons c cs ih =>
      rw [List.forall_mem_cons] at hcs
      rw [List.foldl_cons, List.length_cons]
      rcases hcs.1 with rfl | ⟨n, rfl⟩
      · have hrest := length_foldl_follow_le l.dropLast hcs.2
        rw [List.length_dropLast] at hrest
        rw [Location.follow_parent]
        omega
      · have hrest := ih (l ++ [n]) hcs.2 (by simpa using hup)
        rw [List.length_append, List.length_singleton] at hrest
        rw [Location.follow_name]
        omega

theorem foldl_follow_replicate (l : Location) (n : Nat) :
    (List.replicate n Component.parent).foldl Location.follow l = l.take (l.length - n) := by
  induction n generalizing l with
  | zero => simp
  | succ n ih =>
      rw [List.replicate_succ, List.foldl_cons, ih, Location.follow_parent, List.length_dropLast,
        List.dropLast_eq_take, List.take_take]
      congr 1
      omega

/-- To leave out the last components, or to go up from where all of them lead: that is one location
exactly if there are no dots among the components left out, or it is the root. -/
theorem take_location_eq_iff (hcs : ∀ c ∈ cs, IsHop c) (n : Nat) :
    let whole := cs.foldl Location.follow []
    let above := (cs.take (cs.length - n)).foldl Location.follow []
    whole.take (whole.length - n) = above ↔
      .parent ∉ cs.drop (cs.length - n) ∨ above = [] := by
  intro whole above
  have hlast : ∀ c ∈ cs.drop (cs.length - n), IsHop c := fun c hc => hcs c (List.mem_of_mem_drop hc)
  have hwhole : whole = (cs.drop (cs.length - n)).foldl Location.follow above := by
    rw [← List.foldl_append, List.take_append_drop]
  have hlength : (cs.drop (cs.length - n)).length ≤ n := by
    rw [List.length_drop]
    omega
  by_cases habove : above = []
  · refine iff_of_true ?_ (.inr habove)
    have hshort := length_foldl_follow_le above hlast
    rw [← hwhole, habove, List.length_nil] at hshort
    rw [habove, Nat.sub_eq_zero_of_le (by omega), List.take_zero]
  -- Something is left, so exactly `n` components are left out.
  have hn : (cs.drop (cs.length - n)).length = n := by
    have hpos : cs.length - n ≠ 0 := by
      intro hzero
      exact habove (by simp only [above, hzero, List.take_zero, List.foldl_nil])
    rw [List.length_drop]
    omega
  have hpos : 0 < above.length := List.length_pos_iff.mpr habove
  by_cases hup : .parent ∈ cs.drop (cs.length - n)
  · refine iff_of_false (fun hsame => ?_) (by simp [hup, habove])
    have hshort := length_foldl_follow_lt above hlast hup
    have hlengths := congrArg List.length hsame
    rw [← hwhole, hn] at hshort
    rw [List.length_take] at hlengths
    omega
  · refine iff_of_true ?_ (.inl hup)
    obtain ⟨names, hfold, hnames⟩ := foldl_follow_names above hlast hup
    rw [hwhole, hfold, List.length_append, hnames, hn, Nat.add_sub_cancel, List.take_left]

end Follow

/-- The location that a path spells is where its components lead. -/
theorem location_eq (p : Path) : p.location = (spelled p.bytes).foldl Location.follow [] := by
  have hparts : ∀ (ps : List Name) (l : Location), (ps.filter (· ≠ [])).foldl Location.step l =
      (ps.filterMap component?).foldl Location.follow l := by
    intro ps
    induction ps with
    | nil => exact fun l => rfl
    | cons part ps ih =>
        intro l
        by_cases hnil : part = []
        · simpa [hnil, component?, isSilent] using ih l
        by_cases hdot : part = [dot]
        · simpa [hdot, component?, isSilent, Location.step] using ih l
        by_cases hdots : part = [dot, dot]
        · simpa [hdots, component?, isSilent, Location.step, Location.follow] using ih l.dropLast
        · simpa [hnil, hdot, hdots, component?, isSilent, Location.step, Location.follow] using
            ih (l ++ [part])
  exact hparts (parts p.bytes) []

/-! ## Walking up and going up -/

variable {p : Path}

/-- A canonical path is normal already. -/
theorem IsCanonical.normalize (hp : p.IsCanonical) : p.normalize = p := by
  obtain ⟨names, hnames, rfl⟩ := isCanonical_iff.mp hp
  rw [normalize_of_isAbsolute hp.isAbsolute, location_ofNames hnames]

/-- Walking up leaves out the last components. -/
theorem spelled_walkUp (hp : p.isAbsolute = true) (steps : Nat) :
    spelled (walkUp steps p).bytes = (spelled p.bytes).take ((spelled p.bytes).length - steps) := by
  induction steps generalizing p with
  | zero => simp [WorkingDirectory.walkUp_zero]
  | succ steps ih =>
      rw [WorkingDirectory.walkUp_succ]
      cases hparent : p.parent with
      | none =>
          have hroot := components_of_parent_eq_none hp hparent
          rw [components_of_isAbsolute hp, List.cons.injEq] at hroot
          simp [hroot.2]
      | some above =>
          obtain ⟨habs, hcomponents, hlength⟩ := components_of_parent hp hparent
          rw [components_of_isAbsolute hp, List.length_cons] at hlength
          have hne : spelled p.bytes ≠ [] := List.length_pos_iff.mp (by omega)
          rw [components_of_isAbsolute habs, components_of_isAbsolute hp,
            List.dropLast_cons_of_ne_nil hne, List.cons.injEq] at hcomponents
          rw [ih habs, hcomponents.2, List.length_dropLast, List.dropLast_eq_take, List.take_take]
          congr 1
          omega

/-- Two dots so many times. -/
def dots (n : Nat) : Path :=
  ⟨unparts (List.replicate n [dot, dot])⟩

theorem spelled_dots (n : Nat) : spelled (dots n).bytes = List.replicate n .parent := by
  have hslash : ∀ part ∈ List.replicate n [dot, dot], slash ∉ part := by
    intro part hpart
    rw [List.eq_of_mem_replicate hpart]
    decide
  rw [dots, spelled_unparts hslash, List.filterMap_replicate]
  rfl

theorem head?_dots (n : Nat) : (dots n).bytes.head? ≠ some slash ∧
    (dots n).bytes.head? ≠ some tilde := by
  match n with
  | 0 => decide
  | 1 => decide
  | n + 2 => exact ⟨by simp [dots, List.replicate_succ, unparts, slash, dot], by
      simp [dots, List.replicate_succ, unparts, tilde, dot]⟩

end Path

namespace WorkingDirectory

open LuaShell.Path (IsName ofNames dots spelled)

variable {d : WorkingDirectory}

theorem resolve_dots (d : WorkingDirectory) (n : Nat) :
    d.resolve (dots n) = d.current.join (dots n) := by
  obtain ⟨hslash, htilde⟩ := Path.head?_dots n
  simp [resolve, Path.isAbsolute, Path.isHomePath, hslash, htilde]

/-- A path of dots leads up from the location of the directory. -/
theorem normalize_resolve_dots (hcurrent : d.current.isAbsolute = true) (n : Nat) :
    (d.resolve (dots n)).normalize =
      ofNames (d.current.location.take (d.current.location.length - n)) := by
  have hrel : (dots n).isAbsolute = false := by simpa [Path.isAbsolute] using (Path.head?_dots n).1
  have hjoined := Path.isAbsolute_join hcurrent (dots n)
  have hspelled : spelled (d.current.join (dots n)).bytes =
      spelled d.current.bytes ++ List.replicate n .parent := by
    have hcomponents := Path.components_join hcurrent hrel
    rw [Path.components_of_isAbsolute hjoined, Path.components_of_isAbsolute hcurrent,
      Path.spelled_dots, List.cons_append, List.cons.injEq] at hcomponents
    exact hcomponents.2
  rw [resolve_dots, Path.normalize_of_isAbsolute hjoined, Path.location_eq, hspelled,
    List.foldl_append, Path.foldl_follow_replicate, ← Path.location_eq]

theorem ofNames_inj {names names' : List Name} (hnames : ∀ n ∈ names, IsName n)
    (hnames' : ∀ n ∈ names', IsName n) : ofNames names = ofNames names' ↔ names = names' := by
  constructor
  · intro hsame
    have hlocations := congrArg Path.location hsame
    rwa [Path.location_ofNames hnames, Path.location_ofNames hnames'] at hlocations
  · exact congrArg ofNames

/-- Walking up leads to where a path of dots does exactly if no component that is taken off is two
dots, or the root is reached. -/
theorem normalize_walkUp_eq_iff (hcurrent : d.current.isAbsolute = true) (n : Nat) :
    (walkUp n d.current).normalize = (d.resolve (dots n)).normalize ↔
      .parent ∉ d.current.components.drop (d.current.components.length - n) ∨
        (walkUp n d.current).normalize = Path.rootDirectory := by
  have habove := isAbsolute_walkUp n hcurrent
  have hnames : ∀ m ∈ d.current.location.take (d.current.location.length - n), IsName m :=
    fun m hm => Path.isName_location d.current m (List.mem_of_mem_take hm)
  have hlast : .parent ∉ d.current.components.drop (d.current.components.length - n) ↔
      .parent ∉ (spelled d.current.bytes).drop ((spelled d.current.bytes).length - n) := by
    rw [Path.components_of_isAbsolute hcurrent, List.length_cons]
    -- The root is no dots, so it does not matter whether it is taken off too.
    rcases Nat.lt_or_ge (spelled d.current.bytes).length n with hn | hn
    · rw [Nat.sub_eq_zero_of_le hn, Nat.sub_eq_zero_of_le (Nat.le_of_lt hn)]
      simp
    · rw [Nat.sub_add_comm hn, List.drop_succ_cons]
  have hlocation : (walkUp n d.current).location =
      ((spelled d.current.bytes).take ((spelled d.current.bytes).length - n)).foldl
        Location.follow [] := by
    rw [Path.location_eq, Path.spelled_walkUp hcurrent]
  rw [Path.normalize_of_isAbsolute habove, normalize_resolve_dots hcurrent, ← Path.ofNames_nil,
    ofNames_inj (Path.isName_location _) hnames, ofNames_inj (Path.isName_location _) (by simp),
    hlocation, hlast, Path.location_eq d.current, eq_comm]
  exact Path.take_location_eq_iff (fun c hc => Path.isHop_of_mem_spelled hc) n

end WorkingDirectory

/-! ## After any run of visits -/

/-- An absolute path without two dots. -/
structure Path.Dotless (p : Path) : Prop where
  isAbsolute : p.isAbsolute = true
  not_mem : .parent ∉ p.components

theorem Path.IsCanonical.dotless {p : Path} (hp : p.IsCanonical) : p.Dotless := by
  obtain ⟨names, hnames, rfl⟩ := isCanonical_iff.mp hp
  exact ⟨hp.isAbsolute, by simp [components_ofNames hnames]⟩

theorem Path.Dotless.walkUp {p : Path} (hp : p.Dotless) (steps : Nat) :
    (WorkingDirectory.walkUp steps p).Dotless := by
  have habs := WorkingDirectory.isAbsolute_walkUp steps hp.isAbsolute
  refine ⟨habs, ?_⟩
  have hnone := hp.not_mem
  rw [components_of_isAbsolute hp.isAbsolute] at hnone
  rw [components_of_isAbsolute habs, spelled_walkUp hp.isAbsolute]
  simp only [List.mem_cons, not_or] at hnone ⊢
  exact ⟨hnone.1, fun hmem => hnone.2 (List.mem_of_mem_take hmem)⟩

namespace Host

open LuaShell.Path (dots)

variable {h : Host} {v : Visit}

/-- A visit walks up, or leads to a canonical directory, or leaves the directory as it is. -/
theorem visit_cases (hcurrent : h.directory.current.isAbsolute = true) (v : Visit) :
    (∃ steps : UInt64, (h.visit v).2.directory.current =
      WorkingDirectory.walkUp steps.toNat h.directory.current) ∨
    (h.visit v).2.directory.current.IsCanonical ∨
    (h.visit v).2.directory = h.directory := by
  obtain ⟨fs, steps | raw⟩ := v
  · exact .inl ⟨steps, by rw [(visit_up h fs steps).2]⟩
  · right
    have hspec := visit_path h fs raw
    split at hspec
    · rw [hspec.2]
      exact .inl (Path.isCanonical_normalize (WorkingDirectory.isAbsolute_resolve hcurrent raw))
    · rw [hspec.2]
      exact .inr rfl

theorem visits_isAbsolute (hcurrent : h.directory.current.isAbsolute = true) (vs : List Visit) :
    (h.visits vs).directory.current.isAbsolute = true := by
  induction vs generalizing h with
  | nil => exact hcurrent
  | cons v vs ih =>
      refine ih ?_
      rcases visit_cases hcurrent v with ⟨steps, hup⟩ | hcanonical | hsame
      · exact hup ▸ WorkingDirectory.isAbsolute_walkUp _ hcurrent
      · exact hcanonical.isAbsolute
      · exact hsame ▸ hcurrent

theorem visits_dotless (hcurrent : h.directory.current.Dotless) (vs : List Visit) :
    (h.visits vs).directory.current.Dotless := by
  induction vs generalizing h with
  | nil => exact hcurrent
  | cons v vs ih =>
      refine ih ?_
      rcases visit_cases hcurrent.isAbsolute v with ⟨steps, hup⟩ | hcanonical | hsame
      · exact hup ▸ hcurrent.walkUp _
      · exact hcanonical.dotless
      · exact hsame ▸ hcurrent

/-- After a visit to a path that was not refused there are no dots in the directory any more. -/
theorem visit_path_dotless (hcurrent : h.directory.current.isAbsolute = true) {fs : FileSystem}
    {raw : Path} (hok : (h.visit ⟨fs, .path raw⟩).1 = .ok ()) :
    (h.visit ⟨fs, .path raw⟩).2.directory.current.Dotless := by
  have hspec := visit_path h fs raw
  split at hspec
  · rw [hspec.2]
    exact (Path.isCanonical_normalize
      (WorkingDirectory.isAbsolute_resolve hcurrent raw)).dotless
  · rw [hspec.1] at hok
    cases hok

/-- From any state that is reached from an absolute directory, whatever its text, and where a path
of two dots so many times is not refused: walking up as often is not refused either. It leads to the
same location exactly if none of the components that it takes off the text is two dots, or it leads
to the root. So it does if the first directory was written without two dots, and in every state
after a visit to a path that was not refused. -/
theorem up_agrees_with_dots (h : Host) (hcurrent : h.directory.current.isAbsolute = true)
    (vs : List Visit) (fs : FileSystem) (steps : UInt64)
    (hok : ((h.visits vs).visit ⟨fs, .path (dots steps.toNat)⟩).1 = .ok ()) :
    let now := (h.visits vs).directory.current
    let up := (h.visits vs).visit ⟨fs, .up steps⟩
    let above := up.2.directory.current.normalize
    let beyond := ((h.visits vs).visit ⟨fs, .path (dots steps.toNat)⟩).2.directory.current.normalize
    up.1 = .ok () ∧
    (above = beyond ↔
      .parent ∉ now.components.drop (now.components.length - steps.toNat) ∨
        above = Path.rootDirectory) ∧
    (.parent ∉ h.directory.current.components → above = beyond) ∧
    (∀ before after fs' raw, vs = before ++ ⟨fs', .path raw⟩ :: after →
      ((h.visits before).visit ⟨fs', .path raw⟩).1 = .ok () → above = beyond) := by
  intro now up above beyond
  have hnow : now.isAbsolute = true := visits_isAbsolute hcurrent vs
  obtain ⟨hup, hdirectory⟩ := visit_up (h.visits vs) fs steps
  have habove : above = (WorkingDirectory.walkUp steps.toNat now).normalize := by
    simp only [above, up, now, hdirectory]
  have hbeyond : beyond = ((h.visits vs).directory.resolve (dots steps.toNat)).normalize := by
    have hspec := visit_path (h.visits vs) fs (dots steps.toNat)
    split at hspec
    · have hresolved := WorkingDirectory.isAbsolute_resolve hnow (dots steps.toNat)
      simp only [beyond, hspec.2]
      exact (Path.isCanonical_normalize hresolved).normalize
    · rw [hspec.1] at hok
      cases hok
  have hiff : above = beyond ↔
      .parent ∉ now.components.drop (now.components.length - steps.toNat) ∨
        above = Path.rootDirectory := by
    rw [habove, hbeyond]
    exact WorkingDirectory.normalize_walkUp_eq_iff hnow steps.toNat
  have hdotless : now.Dotless → above = beyond := fun hnone =>
    hiff.mpr (.inl fun hmem => hnone.not_mem (List.mem_of_mem_drop hmem))
  refine ⟨hup, hiff, fun hnone => hdotless (visits_dotless ⟨hcurrent, hnone⟩ vs), ?_⟩
  rintro before after fs' raw rfl hreached
  have hthere := visit_path_dotless (visits_isAbsolute hcurrent before) hreached
  have hlater := visits_dotless hthere after
  refine hdotless ?_
  simpa [now, visits, List.foldl_append] using hlater

/-- Above a directory that is written with a dot and a slash at its end two steps and two times two
dots lead to the same place. -/
theorem up_agrees_with_dots_two_levels :
    let h : Host := ⟨.empty, [], ⟨Path.ofString "/a//b/./c/", none⟩, .plain, .unsupported, .off, [],
      .empty, .empty, #[], 0, 0⟩
    let fs : FileSystem := ⟨.dir [(Text.toBytes "a", .dir [])], #[], none⟩
    h.directory.current.isAbsolute = true ∧
      ((h.visits []).visit ⟨fs, .path (dots (2 : UInt64).toNat)⟩).1 = .ok () ∧
      Component.parent ∉ h.directory.current.components ∧
      (h.visit ⟨fs, .up 2⟩).2.directory.current.normalize =
        (h.visit ⟨fs, .path (dots 2)⟩).2.directory.current.normalize := by
  intro h fs
  have hcurrent : h.directory.current.isAbsolute = true := by decide
  have hok : ((h.visits []).visit ⟨fs, .path (dots (2 : UInt64).toNat)⟩).1 = .ok () := by cbv
  have hnone : Component.parent ∉ h.directory.current.components := by decide
  obtain ⟨-, -, hagrees, -⟩ := up_agrees_with_dots h hcurrent [] fs 2 hok
  exact ⟨hcurrent, hok, hnone, hagrees hnone⟩

/-- From a directory that is written with two dots at its end walking up takes the dots off, and
leads down. -/
theorem up_from_dots :
    let h : Host := ⟨.empty, [], ⟨Path.ofString "/a/..", none⟩, .plain, .unsupported, .off, [],
      .empty, .empty, #[], 0, 0⟩
    let fs : FileSystem := ⟨.dir [(Text.toBytes "a", .dir [])], #[], none⟩
    (h.visit ⟨fs, .path (dots 1)⟩).1 = .ok () ∧
      (h.visit ⟨fs, .path (dots 1)⟩).2.directory.current.normalize = Path.rootDirectory ∧
      (h.visit ⟨fs, .up 1⟩).1 = .ok () ∧
      (h.visit ⟨fs, .up 1⟩).2.directory.current.normalize = Path.ofString "/a" ∧
      Path.ofString "/a" ≠ Path.rootDirectory := by
  refine ⟨?_, ?_, ?_, ?_, by decide⟩ <;> cbv

end Host

end LuaShell
