import LuaShell.Path.Normal
import Mathlib.Data.List.Basic

/-!
# Canonical paths

An absolute path is canonical when its text is a slash before each of its names and
nothing else: no dots, no doubled slash, and no slash at the end but for the root.
Such a path is the same thing as a list of names (`isCanonical_iff`), and joining a
name and taking the last one away are list operations there (`push_ofNames`,
`pop_ofNames`).
-/

namespace LuaShell.Path

/-- A name that a path can spell: not empty, without a slash, and not one of the dots. -/
structure IsName (n : Name) : Prop where
  ne_nil : n ≠ []
  no_slash : slash ∉ n
  ne_dot : n ≠ [dot]
  ne_dots : n ≠ [dot, dot]

instance (n : Name) : Decidable (IsName n) :=
  decidable_of_iff (n ≠ [] ∧ slash ∉ n ∧ n ≠ [dot] ∧ n ≠ [dot, dot])
    ⟨fun ⟨h₁, h₂, h₃, h₄⟩ => ⟨h₁, h₂, h₃, h₄⟩, fun ⟨h₁, h₂, h₃, h₄⟩ => ⟨h₁, h₂, h₃, h₄⟩⟩

/-- The absolute path that spells the given names. -/
def ofNames (names : List Name) : Path :=
  ⟨slash :: unparts names⟩

/-- An absolute path without dots, without a doubled slash, and without a slash at its end
unless it is the root. -/
structure IsCanonical (p : Path) : Prop where
  isAbsolute : p.isAbsolute = true
  isName : p = rootDirectory ∨ ∀ part ∈ parts p.bytes.tail, IsName part

/-! ## Parts -/

/-- No part holds a slash. -/
theorem no_slash_of_mem_parts {bs : List UInt8} {part : Name} (hpart : part ∈ parts bs) :
    slash ∉ part := by
  induction bs generalizing part with
  | nil => simp_all [parts]
  | cons b bs ih =>
      simp only [parts] at hpart
      -- A slash begins a part of its own, and any other byte goes to the part behind it.
      by_cases hb : b = slash
      · rw [if_pos hb] at hpart
        rcases List.mem_cons.mp hpart with rfl | hrest
        · simp
        · exact ih hrest
      · rw [if_neg hb] at hpart
        cases hp : parts bs with
        | nil => exact absurd hp (parts_ne_nil bs)
        | cons q qs =>
            rw [hp] at hpart ih
            rcases List.mem_cons.mp hpart with rfl | hrest
            · have hq : slash ∉ q := ih (List.mem_cons_self ..)
              simp [hq, Ne.symm hb]
            · exact ih (List.mem_cons_of_mem _ hrest)

/-- A text without a slash is its only part. -/
theorem parts_of_no_slash {n : Name} (hn : slash ∉ n) : parts n = [n] := by
  induction n with
  | nil => rfl
  | cons b bs ih =>
      have hb : b ≠ slash := fun h => hn (h ▸ List.mem_cons_self ..)
      have hbs : slash ∉ bs := fun h => hn (List.mem_cons_of_mem _ h)
      simp [parts, hb, ih hbs]

/-- A slash parts a text into what is before it and what is behind it. -/
theorem parts_append_slash (as bs : List UInt8) :
    parts (as ++ slash :: bs) = parts as ++ parts bs := by
  induction as with
  | nil => simp [parts]
  | cons a as ih =>
      by_cases ha : a = slash
      · simp [parts, ha, ih]
      · cases hp : parts as with
        | nil => exact absurd hp (parts_ne_nil as)
        | cons q qs => simp [parts, ha, ih, hp]

theorem unparts_cons {p : Name} {ps : List Name} (hps : ps ≠ []) :
    unparts (p :: ps) = p ++ slash :: unparts ps := by
  cases ps with
  | nil => exact absurd rfl hps
  | cons q qs => rfl

theorem unparts_eq_intercalate (names : List Name) : unparts names = [slash].intercalate names := by
  induction names with
  | nil => rfl
  | cons n names ih =>
      cases names with
      | nil => simp [unparts]
      | cons m names =>
          rw [unparts_cons (by simp), ih, List.intercalate_cons_cons]
          simp

/-- Texts without slashes are the parts of what they are put together to. -/
theorem parts_unparts {ps : List Name} (hne : ps ≠ []) (hslash : ∀ p ∈ ps, slash ∉ p) :
    parts (unparts ps) = ps := by
  induction ps with
  | nil => exact absurd rfl hne
  | cons p ps ih =>
      have hp : slash ∉ p := hslash p (List.mem_cons_self ..)
      by_cases hps : ps = []
      · subst hps
        simpa [unparts] using parts_of_no_slash hp
      · rw [unparts_cons hps, parts_append_slash, parts_of_no_slash hp,
          ih hps fun q hq => hslash q (List.mem_cons_of_mem _ hq)]
        rfl

theorem unparts_concat {ps : List Name} (hps : ps ≠ []) (n : Name) :
    unparts (ps ++ [n]) = unparts ps ++ slash :: n := by
  induction ps with
  | nil => exact absurd rfl hps
  | cons p ps ih =>
      by_cases hrest : ps = []
      · subst hrest
        rfl
      · rw [List.cons_append, unparts_cons (by simp), ih hrest, unparts_cons hrest]
        simp

theorem unparts_ne_nil {names : List Name} (hne : names ≠ [])
    (hnames : ∀ n ∈ names, IsName n) : unparts names ≠ [] := by
  intro hnil
  have hparts : parts (unparts names) = names :=
    parts_unparts hne fun n hn => (hnames n hn).no_slash
  have hmem : [] ∈ names := by
    rw [← hparts, hnil]
    exact List.mem_cons_self ..
  exact (hnames [] hmem).ne_nil rfl

/-- What is put together from names does not end in a slash. -/
theorem getLast?_unparts {names : List Name} (hne : names ≠ [])
    (hnames : ∀ n ∈ names, IsName n) : (unparts names).getLast? ≠ some slash := by
  obtain ⟨front, last, rfl⟩ := (List.eq_nil_or_concat' names).resolve_left hne
  have hlast : IsName last := hnames last (by simp)
  have hend : last.getLast? ≠ some slash := by
    intro h
    exact hlast.no_slash (List.mem_of_getLast? h)
  obtain ⟨b, hb⟩ := Option.ne_none_iff_exists'.mp
    (mt List.getLast?_eq_none_iff.mp hlast.ne_nil)
  by_cases hfront : front = []
  · subst hfront
    simpa [unparts] using hend
  · rw [unparts_concat hfront, List.getLast?_append, List.getLast?_cons, hb]
    simpa [hb] using hend

/-! ## Names as paths -/

theorem isAbsolute_ofNames (names : List Name) : (ofNames names).isAbsolute = true := by
  simp [ofNames, isAbsolute]

theorem ofNames_nil : ofNames [] = rootDirectory := rfl

theorem isAbsolute_iff {p : Path} : p.isAbsolute = true ↔ ∃ bs, p.bytes = slash :: bs := by
  cases hp : p.bytes with
  | nil => simp [isAbsolute, hp]
  | cons b bs => simp [isAbsolute, hp]

/-- The parts after the first slash of a path of names. -/
theorem parts_tail_ofNames {names : List Name} (hne : names ≠ [])
    (hnames : ∀ n ∈ names, IsName n) : parts (ofNames names).bytes.tail = names :=
  parts_unparts hne fun n hn => (hnames n hn).no_slash

/-- The canonical paths are those that spell a list of names. -/
theorem isCanonical_iff {p : Path} :
    p.IsCanonical ↔ ∃ names, (∀ n ∈ names, IsName n) ∧ p = ofNames names := by
  constructor
  · rintro ⟨habs, hroot | hparts⟩
    · exact ⟨[], by simp, hroot⟩
    · obtain ⟨bs, hbs⟩ := isAbsolute_iff.mp habs
      refine ⟨parts p.bytes.tail, hparts, ?_⟩
      cases p
      subst hbs
      simp [ofNames, unparts_parts]
  · rintro ⟨names, hnames, rfl⟩
    refine ⟨isAbsolute_ofNames names, ?_⟩
    by_cases hne : names = []
    · exact Or.inl (by rw [hne, ofNames_nil])
    · right
      rw [parts_tail_ofNames hne hnames]
      exact hnames

theorem isCanonical_ofNames {names : List Name} (hnames : ∀ n ∈ names, IsName n) :
    (ofNames names).IsCanonical :=
  isCanonical_iff.mpr ⟨names, hnames, rfl⟩

theorem component?_of_isName {n : Name} (hn : IsName n) : component? n = some (.name n) := by
  simp [component?, isSilent, hn.ne_nil, hn.ne_dot, hn.ne_dots]

/-- The components of a path of names. -/
theorem components_ofNames {names : List Name} (hnames : ∀ n ∈ names, IsName n) :
    (ofNames names).components = .root :: names.map .name := by
  have hbody : (parts (slash :: unparts names)).filterMap component? = names.map .name := by
    have hfirst : parts (slash :: unparts names) = [] :: parts (unparts names) := by
      simp [parts]
    have hall : names.filterMap component? = names.map .name := by
      rw [← List.filterMap_eq_map]
      exact List.filterMap_congr fun n hn => component?_of_isName (hnames n hn)
    by_cases hne : names = []
    · subst hne
      rfl
    · rw [hfirst, parts_unparts hne fun n hn => (hnames n hn).no_slash]
      simpa [component?, isSilent] using hall
  simp only [components, isAbsolute_ofNames, if_true]
  exact congrArg _ hbody

theorem isAbsolute_of_isName {n : Name} (hn : IsName n) : (Path.mk n).isAbsolute = false := by
  rw [Bool.eq_false_iff]
  intro habs
  obtain ⟨bs, hbs⟩ := isAbsolute_iff.mp habs
  exact hn.no_slash (by rw [show n = slash :: bs from hbs]; exact List.mem_cons_self ..)

theorem isAbsolute_join_eq (p q : Path) :
    (p.join q).isAbsolute = (p.isAbsolute || q.isAbsolute) := by
  unfold join
  cases hq : q.isAbsolute with
  | true => simp [hq]
  | false =>
      rw [if_neg (by simp)]
      cases hp : p.bytes with
      | nil => simpa [isAbsolute, hp] using hq
      | cons b bs => split <;> simp [isAbsolute, hp]

theorem isAbsolute_join {p : Path} (hp : p.isAbsolute = true) (q : Path) :
    (p.join q).isAbsolute = true := by
  rw [isAbsolute_join_eq, hp, Bool.true_or]

/-- A name is pushed behind the names that are there. -/
theorem push_ofNames {names : List Name} (hnames : ∀ n ∈ names, IsName n) {n : Name}
    (hn : IsName n) : (ofNames names).push n = ofNames (names ++ [n]) := by
  have hrel : (Path.mk n).isAbsolute = false := isAbsolute_of_isName hn
  by_cases hne : names = []
  · subst hne
    simp [push, join, hrel, ofNames, unparts]
  · have hend := getLast?_unparts hne hnames
    have hbytes : (slash :: unparts names).getLast? = (unparts names).getLast? := by
      exact List.getLast?_cons_of_ne_nil (unparts_ne_nil hne hnames)
    simp [push, join, hrel, ofNames, unparts_concat hne, hbytes, hend]

/-! ## The path above -/

theorem isSilent_of_isName {n : Name} (hn : IsName n) : isSilent n = false := by
  simp [isSilent, hn.ne_nil, hn.ne_dot]

/-- Names are never dropped from the end. -/
theorem dropSilent_names {names : List Name} (hnames : ∀ n ∈ names, IsName n) :
    dropSilent names = names := by
  rcases List.eq_nil_or_concat' names with rfl | ⟨front, last, rfl⟩
  · rfl
  · have hlast : isSilent last = false := isSilent_of_isName (hnames last (by simp))
    simp [dropSilent, hlast]

theorem split_of_isAbsolute {p : Path} (habs : p.isAbsolute = true) :
    p.split = ([slash], parts p.bytes.tail) := by
  simp [split, habs]

/-- The root has nothing above it. -/
theorem parent_rootDirectory : rootDirectory.parent = none := by
  decide

theorem parent_ofNames {names : List Name} (hnames : ∀ n ∈ names, IsName n)
    (hne : names ≠ []) : (ofNames names).parent = some (ofNames names.dropLast) := by
  have hfront : ∀ n ∈ names.dropLast, IsName n := fun n hn =>
    hnames n (List.dropLast_subset _ hn)
  simp only [parent, split_of_isAbsolute (isAbsolute_ofNames names),
    parts_tail_ofNames hne hnames, dropSilent_names hnames]
  cases names with
  | nil => exact absurd rfl hne
  | cons n ns => simp [dropSilent_names hfront, ofNames]

/-- Popping takes the last name away, and leaves the root. -/
theorem pop_ofNames {names : List Name} (hnames : ∀ n ∈ names, IsName n) :
    (ofNames names).pop = ofNames names.dropLast := by
  by_cases hne : names = []
  · subst hne
    simp [pop, ofNames_nil, parent_rootDirectory]
  · simp [pop, parent_ofNames hnames hne]

end LuaShell.Path
