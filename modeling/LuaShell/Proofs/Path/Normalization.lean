import LuaShell.FileSystem.Lookup
import LuaShell.Proofs.Path.Canonical
import Mathlib.Algebra.Order.BigOperators.Group.List
import Mathlib.Algebra.Order.Ring.Nat

/-!
# Where normalization leads

Read as a list of steps, an absolute path spells a location: a dot stays, two dots
take the last name away, and any other step is one name more.  Normalization writes
exactly that location down (`normalize_of_isAbsolute`), so its text is canonical and
never longer than the path was.
-/

namespace LuaShell

/-- Where a step leads from a location if no link is in the way. -/
def Location.step (l : Location) (c : Name) : Location :=
  if c = [Path.dot] then l
  else if c = [Path.dot, Path.dot] then l.dropLast
  else l ++ [c]

namespace Path

/-- The location that the steps of a path lead to if no link is in the way. -/
def location (p : Path) : Location :=
  p.steps.foldl Location.step []

/-! ## Steps of a path -/

/-- A step by a name goes down to the entry of that name. -/
theorem step_of_isName {n : Name} (hn : IsName n) (l : Location) : l.step n = l ++ [n] := by
  simp [Location.step, hn.ne_dot, hn.ne_dots]

/-- What is neither empty nor holds a slash is a name or one of the dots. -/
theorem isName_step {l : Location} {c : Name} (hl : ∀ n ∈ l, IsName n) (hne : c ≠ [])
    (hslash : slash ∉ c) : ∀ n ∈ l.step c, IsName n := by
  unfold Location.step
  split
  · exact hl
  · next hdot =>
      split
      · exact fun n hn => hl n (List.dropLast_subset _ hn)
      · next hdots =>
          intro n hn
          rcases List.mem_append.mp hn with hn | hn
          · exact hl n hn
          · rw [List.mem_singleton.mp hn]
            exact ⟨hne, hslash, hdot, hdots⟩

theorem isName_foldl_step {cs : List Name} {l : Location} (hl : ∀ n ∈ l, IsName n)
    (hcs : ∀ c ∈ cs, c ≠ [] ∧ slash ∉ c) : ∀ n ∈ cs.foldl Location.step l, IsName n := by
  induction cs generalizing l with
  | nil => exact hl
  | cons c cs ih =>
      obtain ⟨hne, hslash⟩ := hcs c (List.mem_cons_self ..)
      exact ih (isName_step hl hne hslash) fun d hd => hcs d (List.mem_cons_of_mem _ hd)

theorem of_mem_steps {p : Path} {c : Name} (hc : c ∈ p.steps) :
    c ≠ [] ∧ slash ∉ c ∧ c ∈ parts p.bytes := by
  obtain ⟨hmem, hne⟩ := List.mem_filter.mp hc
  exact ⟨by simpa using hne, no_slash_of_mem_parts hmem, hmem⟩

/-- A location that a path spells is made of names. -/
theorem isName_location (p : Path) : ∀ n ∈ p.location, IsName n :=
  isName_foldl_step (by simp) fun _ hc => ⟨(of_mem_steps hc).1, (of_mem_steps hc).2.1⟩

/-- A slash at the end leads nowhere else. -/
theorem foldl_step_lookupSteps (p : Path) :
    p.lookupSteps.foldl Location.step [] = p.location := by
  unfold lookupSteps
  split
  · simp [location, Location.step]
  · rfl

/-- Names are gone down one after the other. -/
theorem foldl_step_names {names : List Name} (hnames : ∀ n ∈ names, IsName n) (l : Location) :
    names.foldl Location.step l = l ++ names := by
  induction names generalizing l with
  | nil => simp
  | cons n names ih =>
      have hname : IsName n := hnames n (List.mem_cons_self ..)
      have hrest : ∀ m ∈ names, IsName m := fun m hm => hnames m (List.mem_cons_of_mem _ hm)
      rw [List.foldl_cons, step_of_isName hname, ih hrest]
      simp

theorem steps_ofNames {names : List Name} (hnames : ∀ n ∈ names, IsName n) :
    (ofNames names).steps = names := by
  have hparts : parts (slash :: unparts names) = [] :: parts (unparts names) := by
    simp [parts]
  by_cases hne : names = []
  · subst hne
    decide
  · simp only [steps, ofNames, hparts, parts_unparts hne fun n hn => (hnames n hn).no_slash]
    simpa using fun n hn => (hnames n hn).ne_nil

theorem lookupSteps_ofNames {names : List Name} (hne : names ≠ [])
    (hnames : ∀ n ∈ names, IsName n) : (ofNames names).lookupSteps = names := by
  have hend : (ofNames names).endsInSlash = false := by
    simpa [endsInSlash, ofNames, List.getLast?_cons_of_ne_nil (unparts_ne_nil hne hnames)] using
      getLast?_unparts hne hnames
  simp [lookupSteps, hend, steps_ofNames hnames]

theorem location_ofNames {names : List Name} (hnames : ∀ n ∈ names, IsName n) :
    (ofNames names).location = names := by
  rw [location, steps_ofNames hnames, foldl_step_names hnames, List.nil_append]

theorem lookupSteps_rootDirectory : rootDirectory.lookupSteps = [[dot]] := by
  decide

/-! ## The fold -/

/-- Following a part is taking it as a step, silent parts being no steps. -/
theorem foldl_follow_ofNames {ps : List Name} {names : List Name}
    (hnames : ∀ n ∈ names, IsName n) (hps : ∀ p ∈ ps, slash ∉ p) :
    (ps.filterMap component?).foldl follow (ofNames names) =
      ofNames ((ps.filter (· ≠ [])).foldl Location.step names) := by
  -- The text put together so far spells `names`, which every step keeps.
  induction ps generalizing names with
  | nil => rfl
  | cons c ps ih =>
      have hc : slash ∉ c := hps c (List.mem_cons_self ..)
      have hrest : ∀ p ∈ ps, slash ∉ p := fun p hp => hps p (List.mem_cons_of_mem _ hp)
      by_cases hnil : c = []
      · subst hnil
        simpa [component?, isSilent] using ih hnames hrest
      have hstep := isName_step hnames hnil hc
      by_cases hdot : c = [dot]
      · subst hdot
        simpa [component?, isSilent, Location.step] using ih hnames hrest
      by_cases hdots : c = [dot, dot]
      · subst hdots
        have hpop : follow (ofNames names) .parent = ofNames names.dropLast := pop_ofNames hnames
        have := ih hstep hrest
        simpa [component?, isSilent, Location.step, hpop] using this
      · have hname : IsName c := ⟨hnil, hc, hdot, hdots⟩
        have hpush : follow (ofNames names) (.name c) = ofNames (names ++ [c]) :=
          push_ofNames hnames hname
        have := ih hstep hrest
        simpa [component?_of_isName hname, hnil, Location.step, hdot, hdots, hpush] using this

/-- Normalization writes the location down that the path spells. -/
theorem normalize_of_isAbsolute {p : Path} (habs : p.isAbsolute = true) :
    p.normalize = ofNames p.location := by
  have hroot : follow empty .root = ofNames [] := by decide
  have hempty : ∀ n ∈ ([] : List Name), IsName n := by simp
  have hparts : ∀ part ∈ parts p.bytes, slash ∉ part := fun _ => no_slash_of_mem_parts
  have hfold := foldl_follow_ofNames hempty hparts
  simp only [normalize, components, habs, if_true, List.foldl_cons, hroot]
  exact hfold

theorem isCanonical_normalize {p : Path} (habs : p.isAbsolute = true) :
    p.normalize.IsCanonical := by
  rw [normalize_of_isAbsolute habs]
  exact isCanonical_ofNames (isName_location p)

/-- Of two normal paths one begins with the other when its location does. -/
theorem normalize_startsWith_iff {p q : Path} (hp : p.isAbsolute = true)
    (hq : q.isAbsolute = true) :
    p.normalize.startsWith q.normalize = true ↔ q.location <+: p.location := by
  have hinj : Function.Injective Component.name := fun _ _ h => Component.name.inj h
  rw [normalize_of_isAbsolute hp, normalize_of_isAbsolute hq, startsWith,
    components_ofNames (isName_location p), components_ofNames (isName_location q),
    List.isPrefixOf_iff_prefix, List.cons_prefix_cons]
  simpa using List.prefix_map_iff_of_injective hinj

/-! ## Bytes of the text -/

/-- The bytes that names take as text, with a slash before each. -/
def spelledLength (names : List Name) : Nat :=
  (names.map (·.length + 1)).sum

theorem length_unparts {names : List Name} (hne : names ≠ []) :
    (unparts names).length + 1 = spelledLength names := by
  induction names with
  | nil => exact absurd rfl hne
  | cons n ns ih =>
      by_cases hns : ns = []
      · subst hns
        simp [unparts, spelledLength]
      · have := ih hns
        simp only [spelledLength, List.map_cons, List.sum_cons, unparts_cons hns,
          List.length_append, List.length_cons] at *
        omega

theorem spelledLength_le_of_sublist {ms ns : List Name} (hsub : ms.Sublist ns) :
    spelledLength ms ≤ spelledLength ns :=
  (hsub.map _).sum_le_sum fun _ _ => Nat.zero_le _

theorem spelledLength_step (l : Location) (c : Name) :
    spelledLength (l.step c) ≤ spelledLength l + (c.length + 1) := by
  unfold Location.step
  split
  · omega
  · split
    · have := spelledLength_le_of_sublist (List.dropLast_sublist l)
      omega
    · simp [spelledLength]

theorem spelledLength_foldl_step (cs : List Name) (l : Location) :
    spelledLength (cs.foldl Location.step l) ≤ spelledLength l + spelledLength cs := by
  induction cs generalizing l with
  | nil => simp [spelledLength]
  | cons c cs ih =>
      have hfirst := spelledLength_step l c
      have hrest := ih (l.step c)
      simp only [List.foldl_cons, spelledLength, List.map_cons, List.sum_cons] at *
      omega

/-- Normalization never makes an absolute path longer. -/
theorem length_normalize_le {p : Path} (habs : p.isAbsolute = true) :
    p.normalize.bytes.length ≤ p.bytes.length := by
  obtain ⟨bs, hbs⟩ := isAbsolute_iff.mp habs
  -- The steps are the parts of the text less the empty ones.
  have hsteps : spelledLength p.steps ≤ bs.length + 1 := by
    have hparts : p.steps.Sublist (parts bs) := by
      simp [steps, hbs, parts]
    calc spelledLength p.steps ≤ spelledLength (parts bs) :=
          spelledLength_le_of_sublist hparts
      _ = bs.length + 1 := by rw [← length_unparts (parts_ne_nil bs), unparts_parts]
  have hfold := spelledLength_foldl_step p.steps []
  rw [normalize_of_isAbsolute habs, hbs]
  by_cases hnil : p.location = []
  · simp [ofNames, hnil, unparts]
  · have hlength := length_unparts hnil
    simp only [ofNames, List.length_cons, location, spelledLength, List.map_nil,
      List.sum_nil] at *
    omega

theorem mem_unparts {names : List Name} {b : UInt8} (hb : b ∈ unparts names) :
    b = slash ∨ ∃ n ∈ names, b ∈ n := by
  induction names with
  | nil => simp [unparts] at hb
  | cons n ns ih =>
      by_cases hns : ns = []
      · subst hns
        exact Or.inr ⟨n, List.mem_cons_self .., hb⟩
      · rw [unparts_cons hns] at hb
        rcases List.mem_append.mp hb with hfirst | hb
        · exact Or.inr ⟨n, List.mem_cons_self .., hfirst⟩
        rcases List.mem_cons.mp hb with hslash | hrest
        · exact Or.inl hslash
        rcases ih hrest with hslash | ⟨m, hm, hbm⟩
        · exact Or.inl hslash
        · exact Or.inr ⟨m, List.mem_cons_of_mem _ hm, hbm⟩

/-- A path that is not empty asks for at least one step. -/
theorem lookupSteps_ne_nil {p : Path} (hne : p.bytes ≠ []) : p.lookupSteps ≠ [] := by
  unfold lookupSteps
  split
  · simp
  · next hend =>
      obtain ⟨b, hb⟩ := Option.ne_none_iff_exists'.mp (mt List.getLast?_eq_none_iff.mp hne)
      have hslash : b ≠ slash := by
        rintro rfl
        exact hend (by simpa [endsInSlash] using hb)
      have hmem : b ∈ unparts (parts p.bytes) := by
        rw [unparts_parts]
        exact List.mem_of_getLast? hb
      obtain ⟨part, hpart, hbpart⟩ := (mem_unparts hmem).resolve_left hslash
      have hstep : part ∈ p.steps :=
        List.mem_filter.mpr ⟨hpart, by simpa using List.ne_nil_of_mem hbpart⟩
      exact List.ne_nil_of_mem hstep

theorem mem_of_mem_parts {bs : List UInt8} {part : Name} (hpart : part ∈ parts bs) {b : UInt8}
    (hb : b ∈ part) : b ∈ bs := by
  induction bs generalizing part with
  | nil => simp_all [parts]
  | cons a bs ih =>
      simp only [parts] at hpart
      split at hpart
      · rcases List.mem_cons.mp hpart with rfl | hrest
        · simp at hb
        · exact List.mem_cons_of_mem _ (ih hrest hb)
      · cases hp : parts bs with
        | nil => exact absurd hp (parts_ne_nil bs)
        | cons q qs =>
            rw [hp] at hpart ih
            rcases List.mem_cons.mp hpart with rfl | hrest
            · rcases List.mem_cons.mp hb with rfl | hb
              · exact List.mem_cons_self ..
              · exact List.mem_cons_of_mem _ (ih (List.mem_cons_self ..) hb)
            · exact List.mem_cons_of_mem _ (ih (List.mem_cons_of_mem _ hrest) hb)

/-- A location has no steps in it that the path has not. -/
theorem mem_of_mem_foldl_step {cs : List Name} {l : Location} {n : Name}
    (hn : n ∈ cs.foldl Location.step l) : n ∈ l ∨ n ∈ cs := by
  induction cs generalizing l with
  | nil => exact Or.inl hn
  | cons c cs ih =>
      rcases ih hn with hstep | hrest
      · unfold Location.step at hstep
        split at hstep
        · exact Or.inl hstep
        · split at hstep
          · exact Or.inl (List.dropLast_subset _ hstep)
          · rcases List.mem_append.mp hstep with hl | hc
            · exact Or.inl hl
            · exact Or.inr (List.mem_cons.mpr (Or.inl (List.mem_singleton.mp hc)))
      · exact Or.inr (List.mem_cons_of_mem _ hrest)

theorem mem_of_mem_normalize {p : Path} (habs : p.isAbsolute = true) {b : UInt8}
    (hb : b ∈ p.normalize.bytes) : b ∈ p.bytes := by
  have hslash : slash ∈ p.bytes := by
    obtain ⟨bs, hbs⟩ := isAbsolute_iff.mp habs
    simp [hbs]
  rw [normalize_of_isAbsolute habs] at hb
  rcases List.mem_cons.mp hb with rfl | hb
  · exact hslash
  rcases mem_unparts hb with rfl | ⟨n, hn, hbn⟩
  · exact hslash
  rcases mem_of_mem_foldl_step hn with hnil | hstep
  · simp at hnil
  · exact mem_of_mem_parts (of_mem_steps hstep).2.2 hbn

/-- What can be asked of the system: a text without zeros, neither empty nor too long. -/
theorem refusal?_eq_none_iff {p : Path} :
    p.refusal? = none ↔ 0 ∉ p.bytes ∧ p.bytes ≠ [] ∧ p.bytes.length < maxLength := by
  unfold refusal?
  by_cases hzero : 0 ∈ p.bytes
  · simp [hzero]
  by_cases hnil : p.bytes = []
  · simp [hnil]
  by_cases hlong : maxLength ≤ p.bytes.length
  · simp [hzero, hnil, hlong]
  · simp [hzero, hnil, hlong, Nat.lt_of_not_le hlong]

/-- What can be asked of the system can be asked in its normal form. -/
theorem refusal?_normalize {p : Path} (habs : p.isAbsolute = true) (hp : p.refusal? = none) :
    p.normalize.refusal? = none := by
  obtain ⟨hzero, -, hshort⟩ := refusal?_eq_none_iff.mp hp
  refine refusal?_eq_none_iff.mpr ⟨fun h => hzero (mem_of_mem_normalize habs h), ?_,
    (length_normalize_le habs).trans_lt hshort⟩
  rw [normalize_of_isAbsolute habs]
  simp [ofNames]

end Path

end LuaShell
