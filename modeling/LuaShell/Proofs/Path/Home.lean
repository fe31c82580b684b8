import LuaShell.Path.WorkingDirectory
import LuaShell.Proofs.Path.Components
import LuaShell.Proofs.Path.Steps

/-!
# Texts that start from the home directory

A mark at the beginning of a text stands for the home directory, alone or before a separator, and
then the text says nothing about the working directory.  That the home directory is an absolute path
is asked afterwards: with any other one the text is joined to the working directory after all
(`resolve_of_not_startsFromHome`).

Behind the mark a backslash separates as well as a slash, which it does nowhere else
(`components_below_home`).  So what stands behind `~/` keeps its components exactly if no backslash
is in it (`resolve_from_home`).
-/

namespace LuaShell

namespace Path

/-- The parts behind the mark hold no slash. -/
theorem no_slash_of_mem_separated {bs : List UInt8} {part : Name}
    (hpart : part ∈ separated bs) : slash ∉ part := by
  have hne : ∀ {b : UInt8}, ¬ isSeparator b = true → slash ≠ b := fun hsep heq =>
    hsep (by simp [isSeparator, ← heq])
  fun_induction separated bs generalizing part with
  | case1 => cases hpart
  | case2 b bs hsep ih => exact ih hpart
  | case3 b hsep =>
      obtain rfl := List.mem_singleton.mp hpart
      simpa using hne hsep
  | case4 b hsep c bs hnext ih =>
      rcases List.mem_cons.mp hpart with rfl | hrest
      · simpa using hne hsep
      · exact ih hrest
  | case5 b hsep c bs hnext hparts ih =>
      rw [hparts] at hpart
      obtain rfl := List.mem_singleton.mp hpart
      simpa using hne hsep
  | case6 b hsep c bs hnext q qs hparts ih =>
      rw [hparts] at hpart ih
      rcases List.mem_cons.mp hpart with rfl | hrest
      · exact List.not_mem_cons_of_ne_of_not_mem (hne hsep) (ih List.mem_cons_self)
      · exact ih (List.mem_cons_of_mem _ hrest)

/-- Parts below a relative home directory are a relative path. -/
theorem isAbsolute_foldl_push {ps : List Name} (hps : ∀ part ∈ ps, slash ∉ part) (p : Path) :
    (ps.foldl push p).isAbsolute = p.isAbsolute := by
  induction ps generalizing p with
  | nil => rfl
  | cons part ps ih =>
      rw [List.foldl_cons, ih fun q hq => hps q (List.mem_cons_of_mem _ hq),
        isAbsolute_push p (hps part List.mem_cons_self)]

theorem components_foldl_push {ps : List Name} (hps : ∀ part ∈ ps, slash ∉ part) {p : Path}
    (hp : p.isAbsolute = true) :
    (ps.foldl push p).components = p.components ++ ps.filterMap component? := by
  induction ps generalizing p with
  | nil => simp
  | cons part ps ih =>
      have hpart : slash ∉ part := hps part List.mem_cons_self
      have hpushed : (p.push part).isAbsolute = true := (isAbsolute_push p hpart).trans hp
      rw [List.foldl_cons, ih (fun q hq => hps q (List.mem_cons_of_mem _ hq)) hpushed,
        components_push hp hpart, List.append_assoc, List.filterMap_cons]
      cases component? part <;> rfl

/-! ## Backslashes -/

/-- A text with a slash for every backslash. -/
def slashed (bs : List UInt8) : List UInt8 :=
  bs.map fun b => if b = backslash then slash else b

theorem slashed_cons_of_isSeparator {b : UInt8} (hb : isSeparator b = true) (bs : List UInt8) :
    slashed (b :: bs) = slash :: slashed bs := by
  rcases (by simpa [isSeparator] using hb : b = slash ∨ b = backslash) with rfl | rfl <;> rfl

theorem slashed_cons_of_not_isSeparator {b : UInt8} (hb : ¬ isSeparator b = true)
    (bs : List UInt8) : slashed (b :: bs) = b :: slashed bs ∧ b ≠ slash := by
  have hne : b ≠ slash ∧ b ≠ backslash := by simpa [isSeparator] using hb
  exact ⟨by simp [slashed, hne.2], hne.1⟩

/-- The parts behind the mark are those between slashes and backslashes, the empty ones left out. -/
theorem separated_eq (bs : List UInt8) :
    separated bs = (parts (slashed bs)).filter (· ≠ []) := by
  fun_induction separated bs with
  | case1 => rfl
  | case2 b bs hsep ih => simp [slashed_cons_of_isSeparator hsep, parts, ih]
  | case3 b hsep =>
      obtain ⟨hslashed, hne⟩ := slashed_cons_of_not_isSeparator hsep []
      rw [hslashed]
      simp [slashed, parts, hne]
  | case4 b hsep c bs hnext ih =>
      obtain ⟨hslashed, hne⟩ := slashed_cons_of_not_isSeparator hsep (c :: bs)
      rw [hslashed, slashed_cons_of_isSeparator hnext, ih, slashed_cons_of_isSeparator hnext]
      simp [parts, hne]
  | case5 b hsep c bs hnext hparts ih =>
      -- A byte that is no separator begins a part that is not empty.
      obtain ⟨hslashed, hne⟩ := slashed_cons_of_not_isSeparator hnext bs
      rw [hparts, hslashed] at ih
      cases hp : parts (slashed bs) <;> simp [parts, hne, hp] at ih
  | case6 b hsep c bs hnext q qs hparts ih =>
      obtain ⟨hslashed, hne⟩ := slashed_cons_of_not_isSeparator hsep (c :: bs)
      obtain ⟨hslashed', hne'⟩ := slashed_cons_of_not_isSeparator hnext bs
      rw [hparts, hslashed'] at ih
      rw [hslashed, hslashed']
      cases hp : parts (slashed bs) with
      | nil => exact absurd hp (parts_ne_nil _)
      | cons r rs =>
          obtain ⟨rfl, rfl⟩ := by simpa [parts, hne', hp] using ih
          simp [parts, hne, hne', hp, hparts]

/-- Below an absolute home directory come the components between slashes and backslashes. -/
theorem components_below_home {home : Path} (hhome : home.isAbsolute = true) (tail : List UInt8) :
    ((separated tail).foldl push home).components = home.components ++ spelled (slashed tail) := by
  rw [components_foldl_push (fun _ => no_slash_of_mem_separated) hhome, separated_eq, spelled,
    List.filterMap_filter]
  congr 2
  funext part
  by_cases hnil : part = [] <;> simp [hnil, component?, isSilent]

theorem slashed_of_not_mem {bs : List UInt8} (hbs : backslash ∉ bs) : slashed bs = bs := by
  have hkept : ∀ b ∈ bs, (if b = backslash then slash else b) = b := fun b hb =>
    if_neg fun heq : b = backslash => hbs (heq ▸ hb)
  rw [slashed, List.map_congr_left hkept, List.map_id']

theorem not_mem_slashed (bs : List UInt8) : backslash ∉ slashed bs := by
  simp only [slashed, List.mem_map, not_exists, not_and]
  intro b _ heq
  split at heq
  · simp [slash, backslash] at heq
  · next hne => exact hne heq

/-- A byte of a name that a text spells is in the text. -/
theorem mem_of_name_mem_spelled {bs : List UInt8} {n : Name} {b : UInt8}
    (hn : .name n ∈ spelled bs) (hb : b ∈ n) : b ∈ bs := by
  obtain ⟨part, hpart, hcomponent⟩ := List.mem_filterMap.mp hn
  obtain ⟨rfl, -⟩ := of_component?_eq_name hcomponent
  exact mem_of_mem_parts hpart hb

/-- A backslash in a text is in one of the names that it spells. -/
theorem exists_name_of_backslash_mem {bs : List UInt8} (hbs : backslash ∈ bs) :
    ∃ n, .name n ∈ spelled bs ∧ backslash ∈ n := by
  rw [← unparts_parts bs] at hbs
  rcases mem_unparts hbs with hslash | ⟨part, hpart, hmem⟩
  · exact absurd hslash (by decide)
  · refine ⟨part, List.mem_filterMap.mpr ⟨part, hpart, ?_⟩, hmem⟩
    have hloud : part ≠ [] ∧ part ≠ [dot] ∧ part ≠ [dot, dot] := by
      refine ⟨?_, ?_, ?_⟩ <;> rintro rfl <;> revert hmem <;> decide
    simp [component?, isSilent, hloud]

end Path

namespace WorkingDirectory

open LuaShell.Path (slash tilde backslash)

variable {d : WorkingDirectory} {raw : Path}

/-- An absolute home directory takes the place of the mark at the beginning of a text. -/
def StartsFromHome (d : WorkingDirectory) (raw : Path) : Prop :=
  (∃ home, d.home = some home ∧ home.isAbsolute = true) ∧
    (raw.bytes = [tilde] ∨ ∃ sep, (sep = slash ∨ sep = backslash) ∧ [tilde, sep] <+: raw.bytes)

theorem StartsFromHome.isHomePath (h : d.StartsFromHome raw) : raw.isHomePath = true := by
  obtain ⟨-, hmark | ⟨sep, -, rest, hmark⟩⟩ := h
  · simp [Path.isHomePath, hmark]
  · simp [Path.isHomePath, ← hmark]

/-- A relative text in which nothing takes the place of the mark expands to no absolute path. -/
theorem isAbsolute_expandHome (hrel : raw.isAbsolute = false) (hhome : ¬ d.StartsFromHome raw)
    {q : Path} (hexpand : raw.expandHome d.home = some q) : q.isAbsolute = false := by
  obtain ⟨bytes⟩ := raw
  unfold Path.expandHome at hexpand
  split at hexpand
  · next b rest hbytes =>
      obtain rfl : bytes = b :: rest := hbytes
      by_cases hmark : b = tilde
      · subst hmark
        rw [if_pos rfl] at hexpand
        split at hexpand
        · exact Bool.eq_false_iff.mpr fun habs => hhome ⟨⟨q, hexpand, habs⟩, .inl rfl⟩
        · next c tail =>
            split at hexpand
            · next hsep =>
                obtain ⟨home, hsome, rfl⟩ := Option.map_eq_some_iff.mp hexpand
                rw [Path.isAbsolute_foldl_push fun _ => Path.no_slash_of_mem_separated]
                refine Bool.eq_false_iff.mpr fun habs => hhome ⟨⟨home, hsome, habs⟩, .inr ⟨c, ?_⟩⟩
                exact ⟨by simpa [Path.isSeparator] using hsep, by simp⟩
            · exact Option.some.inj hexpand ▸ hrel
      · rw [if_neg hmark] at hexpand
        exact Option.some.inj hexpand ▸ hrel
  · exact Option.some.inj hexpand ▸ hrel

/-- Any other text is joined to the working directory. -/
theorem resolve_of_not_startsFromHome (hhome : ¬ d.StartsFromHome raw) :
    d.resolve raw = d.current.join raw := by
  unfold resolve
  split
  · next habs => exact (Path.join_of_isAbsolute d.current habs).symm
  · next hrel =>
      split
      · split
        · next q hexpand =>
            have hq := isAbsolute_expandHome (Bool.eq_false_iff.mpr hrel) hhome hexpand
            rw [if_neg (by simp [hq])]
        · rfl
      · rfl

/-- A separator behind the mark leads below the home directory. -/
theorem resolve_below_home {home : Path} (hsome : d.home = some home)
    (habs : home.isAbsolute = true) {sep : UInt8} (hsep : Path.isSeparator sep = true)
    {tail : List UInt8} (hraw : raw.bytes = tilde :: sep :: tail) :
    d.resolve raw = (Path.separated tail).foldl Path.push home := by
  have hbelow : ((Path.separated tail).foldl Path.push home).isAbsolute = true := by
    rw [Path.isAbsolute_foldl_push fun _ => Path.no_slash_of_mem_separated, habs]
  have hexpand : raw.expandHome d.home = some ((Path.separated tail).foldl Path.push home) := by
    simp [Path.expandHome, hraw, hsep, hsome]
  have hrel : raw.isAbsolute = false := by simp [Path.isAbsolute, hraw, tilde, slash]
  have hmark : raw.isHomePath = true := by simp [Path.isHomePath, hraw]
  simp [resolve, hrel, hmark, hexpand, hbelow]

/-- What a text stands for if the home directory is absolute. An absolute one stands for itself and
the mark alone for the home directory. Behind the mark and a separator come the components of what
is between slashes and backslashes; behind `~/` these are the components between slashes exactly if
there is no backslash, and a text that begins with `~\` is not joined to the working directory,
where the home directory has no backslash in it. Every other text is. -/
theorem resolve_from_home {home : Path} (hcurrent : d.current.isAbsolute = true)
    (hsome : d.home = some home) (habs : home.isAbsolute = true) (raw : Path) :
    (raw.isAbsolute = true → d.resolve raw = raw) ∧
    (raw.bytes = [tilde] → d.resolve raw = home) ∧
    (∀ tail, raw.bytes = tilde :: slash :: tail →
      (d.resolve raw).components = home.components ++ Path.spelled (Path.slashed tail) ∧
      ((d.resolve raw).components = home.components ++ Path.spelled tail ↔ backslash ∉ tail)) ∧
    (∀ tail, raw.bytes = tilde :: backslash :: tail →
      (d.resolve raw).components = home.components ++ Path.spelled (Path.slashed tail) ∧
      (backslash ∉ home.bytes → d.resolve raw ≠ d.current.join raw)) ∧
    (raw.isAbsolute = false → raw.bytes ≠ [tilde] →
      (∀ sep tail, sep = slash ∨ sep = backslash → raw.bytes ≠ tilde :: sep :: tail) →
      d.resolve raw = d.current.join raw) := by
  have hcomponents : ∀ sep tail, Path.isSeparator sep = true → raw.bytes = tilde :: sep :: tail →
      (d.resolve raw).components = home.components ++ Path.spelled (Path.slashed tail) := by
    intro sep tail hsep hraw
    rw [resolve_below_home hsome habs hsep hraw, Path.components_below_home habs]
  refine ⟨fun hraw => by simp [resolve, hraw], ?_, ?_, ?_, ?_⟩
  · intro hraw
    have hexpand : raw.expandHome d.home = some home := by simp [Path.expandHome, hraw, hsome]
    have hrel : raw.isAbsolute = false := by simp [Path.isAbsolute, hraw, tilde, slash]
    have hmark : raw.isHomePath = true := by simp [Path.isHomePath, hraw]
    simp [resolve, hrel, hmark, hexpand, habs]
  · intro tail hraw
    have hbelow := hcomponents slash tail (by decide) hraw
    refine ⟨hbelow, ?_⟩
    rw [hbelow, List.append_cancel_left_eq]
    constructor
    · intro hsame hmem
      obtain ⟨n, hn, hbackslash⟩ := Path.exists_name_of_backslash_mem hmem
      rw [← hsame] at hn
      exact Path.not_mem_slashed tail (Path.mem_of_name_mem_spelled hn hbackslash)
    · exact fun hnone => by rw [Path.slashed_of_not_mem hnone]
  · intro tail hraw
    have hbelow := hcomponents backslash tail (by decide) hraw
    refine ⟨hbelow, fun hhome hjoined => ?_⟩
    -- The name with the backslash behind the mark would have to stand below the home directory.
    have hrel : raw.isAbsolute = false := by simp [Path.isAbsolute, hraw, tilde, slash]
    have hbyte : backslash ∈ raw.bytes := by simp [hraw]
    obtain ⟨n, hn, hbackslash⟩ := Path.exists_name_of_backslash_mem hbyte
    have hmem : .name n ∈ (d.resolve raw).components := by
      rw [hjoined, Path.components_join hcurrent hrel]
      exact List.mem_append_right _ hn
    rw [hbelow, Path.components_of_isAbsolute habs, List.mem_append, List.mem_cons] at hmem
    rcases hmem with (hroot | hinside) | htail
    · cases hroot
    · exact hhome (Path.mem_of_name_mem_spelled hinside hbackslash)
    · exact Path.not_mem_slashed tail (Path.mem_of_name_mem_spelled htail hbackslash)
  · intro _ hmark hsep
    refine resolve_of_not_startsFromHome fun hstarts => ?_
    rcases hstarts.2 with honly | ⟨sep, hsep', rest, hrest⟩
    · exact hmark honly
    · exact hsep sep rest hsep' hrest.symm

/-- Behind `~/` come two components below a home directory that ends in a slash, with dots and
slashes between them; another user's home directory is a name like any other. -/
theorem resolve_from_home_dotted :
    let d : WorkingDirectory := ⟨Path.ofString "/w", some (Path.ofString "/home/u/")⟩
    d.current.isAbsolute = true ∧ (Path.ofString "/home/u/").isAbsolute = true ∧
      (d.resolve (Path.ofString "~//a/./b c/")).components =
        (Path.ofString "/home/u/").components ++ Path.spelled (Text.toBytes "/a/./b c/") ∧
      d.resolve (Path.ofString "~root/x") = d.current.join (Path.ofString "~root/x") := by
  intro d
  have hcurrent : d.current.isAbsolute = true := by decide
  have habs : (Path.ofString "/home/u/").isAbsolute = true := by decide
  obtain ⟨-, -, hbelow, -, -⟩ := resolve_from_home hcurrent rfl habs (Path.ofString "~//a/./b c/")
  obtain ⟨-, -, -, -, hother⟩ := resolve_from_home hcurrent rfl habs (Path.ofString "~root/x")
  refine ⟨hcurrent, habs, (hbelow _ rfl).2.mpr (by decide), hother (by decide) (by decide) ?_⟩
  intro sep tail hsep hraw
  have hsecond : (Path.ofString "~root/x").bytes[1]? = some sep := by
    rw [hraw]
    rfl
  rcases hsep with rfl | rfl <;> exact absurd hsecond (by decide)

/-- A name with a backslash in it is taken apart below the home directory, and nowhere else; and a
backslash behind the mark leads there. -/
theorem resolve_backslash_below_home :
    let d : WorkingDirectory := ⟨Path.ofString "/w", some (Path.ofString "/h")⟩
    (d.resolve (Path.ofString "~/a\\b")).components = [.root, .name [104], .name [97], .name [98]] ∧
      (d.resolve (Path.ofString "~/a\\b")).components ≠
        (Path.ofString "/h").components ++ Path.spelled (Text.toBytes "a\\b") ∧
      d.resolve (Path.ofString "~\\b") ≠ d.current.join (Path.ofString "~\\b") ∧
      d.resolve (Path.ofString "a\\b") = d.current.join (Path.ofString "a\\b") := by
  decide

end WorkingDirectory

end LuaShell
