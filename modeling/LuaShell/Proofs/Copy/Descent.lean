import LuaShell.FileSystem.Tree
import LuaShell.Proofs.Copy.Growth
import LuaShell.Proofs.Path.Steps

/-!
# How a copy goes down a tree

Every call of a tree copy reads a directory and writes to another path, and calls itself
on the directories that it has read (`TreeCopy.Enters`).  If the target is apart from the
directory that is copied, no call adds anything at or below that directory
(`kept_copyLevels`), so every call is for a directory that was there before the first one
(`TreeCopy.within_of_calls`).  What is carried along is `Kept`, that the files only grow and
only elsewhere, and `Trail`, that both paths of a call go the same names down.
-/

namespace LuaShell.FileSystem

open LuaShell.Path (IsName)

/-! ## The directory that is copied -/

/-- The file system has grown, but not at or below the entry at `l`. -/
structure Kept (before : FileSystem) (l : Location) (fs : FileSystem) : Prop where
  there : (before.at? l).isSome
  grows : before.GrowsTo fs
  same : fs.at? l = before.at? l
  sound : fs.Sound

section Kept

variable {before fs fs' : FileSystem} {l : Location}

theorem Kept.refl (hsound : fs.Sound) (hl : (fs.at? l).isSome) : Kept fs l fs :=
  ⟨hl, GrowsTo.refl fs, rfl, hsound⟩

theorem Kept.there_still (hkept : Kept before l fs) : (fs.at? l).isSome := by
  rw [hkept.same]
  exact hkept.there

/-- What is at and below `l` is what was there before. -/
theorem Kept.same_below (hkept : Kept before l fs) (r : List Name) :
    fs.at? (l ++ r) = before.at? (l ++ r) := by
  have hsame : fs.root.at? l = before.root.at? l := hkept.same
  rw [at?, at?, Node.at?_append, Node.at?_append, hsame]

theorem Kept.plain (hkept : Kept before l fs) {p : Path} (hplain : before.Plain p) : fs.Plain p :=
  hkept.grows.root.plain hplain

/-- A new entry that is not at or below `l` leaves what is there as it was. -/
theorem at?_insert_of_outside {d : Location} {n : Name} (hfree : fs.at? (d ++ [n]) = none)
    (hl : (fs.at? l).isSome) (houtside : ¬ l <+: d ++ [n]) (v : Node) :
    (fs.insert d n v).at? l = fs.at? l := by
  refine at?_insert_of_beside fs v (not_above_of_none hfree hl) ?_
  exact fun hunder => houtside (hunder.trans (List.prefix_append d [n]))

/-- More growth that leaves the entry at `l` as it is. -/
theorem Kept.grow (hkept : Kept before l fs) (hgrow : fs.GrowsTo fs')
    (hsame : fs'.at? l = fs.at? l) (hsound : fs'.Sound) : Kept before l fs' :=
  ⟨hkept.there, hkept.grows.trans hgrow, hsame.trans hkept.same, hsound⟩

end Kept

/-! ## The paths that are written to -/

/-- Whatever is missing on the way of a plain path is not at or below `l`. -/
structure Away (before : FileSystem) (l : Location) (p : Path) : Prop where
  isAbsolute : p.isAbsolute = true
  plain : before.Plain p
  way : ∀ cs, cs <+: p.steps → before.at? (cs.foldl Location.step []) = none →
    ¬ l <+: cs.foldl Location.step []

section Away

variable {before fs fs' : FileSystem} {l : Location} {p : Path}

theorem Away.parent (haway : Away before l p) {q : Path} (hq : p.parent = some q) :
    Away before l q := by
  obtain ⟨habs, hsteps⟩ := Path.steps_parent haway.isAbsolute hq
  exact ⟨habs, fun cs hcs => haway.plain cs (hcs.trans hsteps),
    fun cs hcs => haway.way cs (hcs.trans hsteps)⟩

/-- A place that the path spells and where nothing stands is not at or below `l`. -/
theorem Away.outside (haway : Away before l p) (hkept : Kept before l fs)
    (hfree : fs.at? p.location = none) : ¬ l <+: p.location :=
  haway.way p.steps (List.prefix_refl _) (hkept.grows.root.none_of_none hfree)

theorem kept_makeDirectory (hkept : Kept before l fs) (haway : Away before l p)
    (hmade : fs.makeDirectory p = .ok fs') : Kept before l fs' := by
  obtain ⟨d, n, es, hdir, hfree, hname, rfl, hspelled⟩ := of_makeDirectory hmade
  have hlocation := hspelled haway.isAbsolute (hkept.plain haway.plain)
  have houtside : ¬ l <+: d ++ [n] := by
    rw [hlocation] at hfree ⊢
    exact haway.outside hkept hfree
  have hempty : (Node.dir []).LinkFree := Node.linkFree_dir (by simp)
  exact hkept.grow (growsTo_insert hdir hfree hempty)
    (at?_insert_of_outside hfree hkept.there_still houtside _)
    (hkept.sound.insert d hname (.emptyDir _))

theorem kept_acceptDirectory {made : Except IoError FileSystem} (hkept : Kept before l fs)
    (hmade : ∀ fs', made = .ok fs' → Kept before l fs') :
    Kept before l (fs.acceptDirectory p made).2 := by
  unfold acceptDirectory
  split
  · exact hmade _ rfl
  · split
    · exact hkept
    · exact hkept

/-- Making a directory and those above it keeps the directory that is copied. -/
theorem kept_makeDirectories {levels : Nat} (hkept : Kept before l fs) (haway : Away before l p) :
    Kept before l (fs.makeDirectories levels p).2 := by
  -- Whatever fails on the way, nothing but what is above the path has been made.
  fun_induction makeDirectories levels fs p with
  | case1 => exact hkept
  | case2 _ _ _ _ hmade => exact kept_makeDirectory hkept haway hmade
  | case3 => exact kept_acceptDirectory hkept (fun _ h => by cases h)
  | case4 _ _ _ _ _ _ _ habove fs' hrest ih =>
      have hkept' : Kept before l fs' := by
        have hafter := ih (haway.parent habove)
        rwa [hrest] at hafter
      exact kept_acceptDirectory hkept' fun _ hmade => kept_makeDirectory hkept' haway hmade
  | case5 _ _ _ _ _ _ _ habove _ ih => exact ih (haway.parent habove)
  | case6 => exact hkept

theorem kept_makeTarget (hkept : Kept before l fs) (haway : Away before l p) :
    Kept before l (fs.makeTarget p).2 := by
  unfold makeTarget
  split
  · exact hkept
  · exact kept_makeDirectories hkept haway

/-- Copying one file keeps the directory that is copied. -/
theorem kept_copyFile {source : Path} (hkept : Kept before l fs) (haway : Away before l p)
    (hcopy : fs.copyFile source p = .ok fs') : Kept before l fs' := by
  obtain ⟨id, f, d, n, -, -, hslot, ⟨hfree, rfl⟩ | ⟨old, -, rfl⟩⟩ := of_copyFile hkept.sound hcopy
  · obtain ⟨⟨es, hes⟩, hname, -⟩ := slot_of_findSlot hslot
    have hlocation := location_of_findSlot haway.isAbsolute (hkept.plain haway.plain) hslot
    have houtside : ¬ l <+: d ++ [n] := by
      rw [hlocation] at hfree ⊢
      exact haway.outside hkept hfree
    exact hkept.grow (growsTo_insertFile hes hfree f)
      (at?_insert_of_outside hfree hkept.there_still houtside _)
      (hkept.sound.insertFile d hname f)
  · exact hkept.grow ⟨Node.GrowsTo.refl fs.root, rfl⟩ rfl (hkept.sound.setFile old _)

end Away

/-! ## The way of a call -/

/-- What keeps a copy apart from the directory that it copies: both paths meet no link, the
target is not at or below the source, what is missing on the way to the target is not there
either, no directory of the source would be put in the place of the source itself, and no link
stands where an entry of the source would be put. -/
structure Apart (fs : FileSystem) (source target : Path) : Prop where
  source_plain : fs.Plain source
  target_plain : fs.Plain target
  outside : ¬ source.location <+: target.location
  way : ∀ cs, cs <+: target.steps → fs.at? (cs.foldl Location.step []) = none →
    ¬ source.location <+: cs.foldl Location.step []
  landing : ∀ d es, target.location ++ d = source.location →
    fs.at? (source.location ++ d) ≠ some (.dir es)
  noLinks : ∀ r path, (fs.at? (source.location ++ r)).isSome →
    fs.at? (target.location ++ r) ≠ some (.link path)

/-- Both paths of a call have gone the names `e` down from the paths of the first call. -/
structure Trail (source target : Path) (e : List Name) (source' target' : Path) : Prop where
  names : ∀ n ∈ e, IsName n
  source_isAbsolute : source'.isAbsolute = true
  source_steps : source'.steps = source.steps ++ e
  target_isAbsolute : target'.isAbsolute = true
  target_steps : target'.steps = target.steps ++ e

theorem foldl_step_append (p : Path) {e : List Name} (hnames : ∀ n ∈ e, IsName n) :
    (p.steps ++ e).foldl Location.step [] = p.location ++ e := by
  rw [List.foldl_append, Path.foldl_step_names hnames]
  rfl

/-- On the way down a path passes what the path above passes, and then the names. -/
theorem of_prefix_steps {p : Path} {e cs : List Name} (hnames : ∀ n ∈ e, IsName n)
    (hcs : cs <+: p.steps ++ e) :
    cs <+: p.steps ∨ ∃ e', e' <+: e ∧ cs.foldl Location.step [] = p.location ++ e' := by
  rcases List.prefix_or_prefix_of_prefix hcs (List.prefix_append p.steps e) with habove | hbelow
  · exact Or.inl habove
  · obtain ⟨e', rfl⟩ := hbelow
    have he' : e' <+: e := (List.prefix_append_right_inj _).mp hcs
    exact Or.inr ⟨e', he', foldl_step_append p fun n hn => hnames n (he'.subset hn)⟩

namespace Trail

variable {source target source' target' : Path} {e : List Name}

theorem nil (hsource : source.isAbsolute = true) (htarget : target.isAbsolute = true) :
    Trail source target [] source target :=
  ⟨by simp, hsource, by simp, htarget, by simp⟩

theorem push (htrail : Trail source target e source' target') {n : Name} (hn : IsName n) :
    Trail source target (e ++ [n]) (source'.push n) (target'.push n) := by
  refine ⟨?_, Path.isAbsolute_join htrail.source_isAbsolute _, ?_,
    Path.isAbsolute_join htrail.target_isAbsolute _, ?_⟩
  · intro m hm
    rcases List.mem_append.mp hm with hm | hm
    · exact htrail.names m hm
    · rw [List.mem_singleton.mp hm]
      exact hn
  · rw [Path.steps_push _ hn, htrail.source_steps, List.append_assoc]
  · rw [Path.steps_push _ hn, htrail.target_steps, List.append_assoc]

theorem source_location (htrail : Trail source target e source' target') :
    source'.location = source.location ++ e := by
  rw [Path.location, htrail.source_steps, foldl_step_append _ htrail.names]

/-- A path that goes down from a plain one through directories is plain. -/
theorem source_plain {fs : FileSystem} {es : List (Name × Node)} (hapart : fs.Apart source target)
    (htrail : Trail source target e source' target')
    (hdir : fs.at? (source.location ++ e) = some (.dir es)) : fs.Plain source' := by
  intro cs hcs path hlink
  rw [htrail.source_steps] at hcs
  rcases of_prefix_steps htrail.names hcs with habove | ⟨e', he', hbelow⟩
  · exact hapart.source_plain cs habove path hlink
  · obtain ⟨es', hes'⟩ :=
      Node.dir_above ((List.prefix_append_right_inj source.location).mpr he') hdir
    rw [hbelow, hes'] at hlink
    cases hlink

/-- From a target that is apart the way down to what the source holds stays away from it. -/
theorem target_away {fs : FileSystem} (hapart : fs.Apart source target)
    (htrail : Trail source target e source' target')
    (hat : (fs.at? (source.location ++ e)).isSome) : Away fs source.location target' := by
  refine ⟨htrail.target_isAbsolute, ?_, ?_⟩
  · intro cs hcs path hlink
    rw [htrail.target_steps] at hcs
    rcases of_prefix_steps htrail.names hcs with habove | ⟨e', he', hbelow⟩
    · exact hapart.target_plain cs habove path hlink
    · rw [hbelow] at hlink
      have hat' := Node.at?_isSome_above
        ((List.prefix_append_right_inj source.location).mpr he') hat
      exact hapart.noLinks e' path hat' hlink
  · intro cs hcs hfree hunder
    rw [htrail.target_steps] at hcs
    rcases of_prefix_steps htrail.names hcs with habove | ⟨e', he', hbelow⟩
    · exact hapart.way cs habove hfree hunder
    rw [hbelow] at hfree hunder
    -- The source is below the target, so it is the target with some names `d` of the way.
    obtain ⟨d, hd⟩ := (List.prefix_or_prefix_of_prefix hunder
      (List.prefix_append target.location e')).resolve_left hapart.outside
    have hde' : d <+: e' := by
      rw [← hd] at hunder
      exact (List.prefix_append_right_inj _).mp hunder
    obtain ⟨r, hr⟩ := hde'.trans he'
    cases r with
    | nil =>
        -- The whole way lands in the source, where something stands already.
        rw [List.append_nil] at hr
        subst hr
        obtain rfl : d = e' := hde'.eq_of_length_le he'.length_le
        rw [hd] at hfree
        exact not_above_of_none hfree hat (List.prefix_append source.location d)
    | cons x r =>
        -- The way goes on below a directory that lands in the source.
        rw [← hr, ← List.append_assoc] at hat
        obtain ⟨es, hes⟩ := Node.dir_of_at?_append (Option.some_get hat).symm
        exact hapart.landing d es hd hes

end Trail

/-! ## Calls -/

/-- Listing a directory lists what stands at the location of its path, if that is plain. -/
theorem of_readDirectory {fs : FileSystem} {p : Path} (habs : p.isAbsolute = true)
    (hplain : fs.Plain p) {es : List (Name × Node)} (hlist : fs.readDirectory p = .ok es) :
    fs.at? p.location = some (.dir es) := by
  obtain ⟨l, hfind, hdir⟩ := readDirectory_eq_ok_iff.mp hlist
  rwa [find_of_plain habs hplain hfind] at hdir

/-- One call of a tree copy. -/
structure TreeCopy where
  levels : Nat
  files : FileSystem
  source : Path
  target : Path

/-- A call makes another for a directory that it has listed, after all that it has listed before
that directory has been copied. -/
inductive TreeCopy.Enters : TreeCopy → TreeCopy → Prop
  | entry {levels : Nat} {fs made now : FileSystem} {source target : Path}
      {listed later : List (Name × Node)} {name : Name} {node : Node}
      (hmade : fs.makeTarget target = (.ok (), made))
      (hlist : made.readDirectory source = .ok (listed ++ (name, node) :: later))
      (hcopied : copyEntries (copyLevels levels) source target made listed = (.ok (), now))
      (hdir : node.isDir = true) :
      Enters ⟨levels + 1, fs, source, target⟩
        ⟨levels, now, source.push name, target.push name⟩

/-- What holds of every call: the copied directory is as it was, and the call is for a directory
that was there. -/
structure TreeCopy.Within (before : FileSystem) (source target : Path) (call : TreeCopy) : Prop where
  kept : Kept before source.location call.files
  trail : ∃ e es, Trail source target e call.source call.target ∧
    before.at? (source.location ++ e) = some (.dir es)

section Calls

variable {before : FileSystem} {source target : Path}

/-- What a call for copying a directory has to keep. -/
def KeepsSource (before : FileSystem) (source target : Path)
    (copyDirectory : FileSystem → Path → Path → Outcome) : Prop :=
  ∀ {fs source' target' e es}, Kept before source.location fs →
    Trail source target e source' target' → before.at? (source.location ++ e) = some (.dir es) →
    Kept before source.location (copyDirectory fs source' target').2

/-- What a call lists stands in the source, by proper names. -/
def Listed (before : FileSystem) (source : Path) (e : List Name) (es : List (Name × Node)) : Prop :=
  ∀ name node, (name, node) ∈ es →
    IsName name ∧ before.at? (source.location ++ (e ++ [name])) = some node

theorem kept_copyEntry (hapart : before.Apart source target)
    {copyDirectory : FileSystem → Path → Path → Outcome}
    (hkeeps : KeepsSource before source target copyDirectory) {fs : FileSystem}
    (hkept : Kept before source.location fs) {source' target' : Path} {e : List Name}
    (htrail : Trail source target e source' target') {name : Name} {node : Node}
    (hname : IsName name) (hat : before.at? (source.location ++ (e ++ [name])) = some node) :
    Kept before source.location (copyEntry copyDirectory source' target' fs name node).2 := by
  have hdown := htrail.push hname
  unfold copyEntry
  split
  · next hdir =>
      cases node with
      | dir es => exact hkeeps hkept hdown hat
      | file id => cases hdir
      | link path => cases hdir
  · have haway := hdown.target_away hapart (by rw [hat]; rfl)
    cases hcopy : fs.copyFile (source'.push name) (target'.push name) with
    | error e => exact hkept
    | ok fs' => exact kept_copyFile hkept haway hcopy

/-- Copying listed entries keeps the directory that is copied if copying the directories among
them does. -/
theorem kept_copyEntries (hapart : before.Apart source target)
    {copyDirectory : FileSystem → Path → Path → Outcome}
    (hkeeps : KeepsSource before source target copyDirectory) {fs : FileSystem}
    (hkept : Kept before source.location fs) {source' target' : Path} {e : List Name}
    (htrail : Trail source target e source' target') {es : List (Name × Node)}
    (hlisted : Listed before source e es) :
    Kept before source.location (copyEntries copyDirectory source' target' fs es).2 := by
  induction es generalizing fs with
  | nil => exact hkept
  | cons entry rest ih =>
      obtain ⟨name, node⟩ := entry
      obtain ⟨hname, hat⟩ := hlisted name node (List.mem_cons_self ..)
      have hrest : Listed before source e rest := fun name' node' hmem =>
        hlisted name' node' (List.mem_cons_of_mem _ hmem)
      have hstep := kept_copyEntry hapart hkeeps hkept htrail hname hat
      rw [copyEntries]
      split
      · next fs' hcopied =>
          rw [hcopied] at hstep
          exact ih hstep hrest
      · exact hstep

/-- A call lists what stood in the source before. -/
theorem listed_of_readDirectory (hapart : before.Apart source target) {fs : FileSystem}
    (hkept : Kept before source.location fs) {source' target' : Path} {e : List Name}
    (htrail : Trail source target e source' target') {es es' : List (Name × Node)}
    (hdir : before.at? (source.location ++ e) = some (.dir es))
    (hlist : fs.readDirectory source' = .ok es') : Listed before source e es' := by
  have hplain := hkept.plain (htrail.source_plain hapart hdir)
  have hnow := of_readDirectory htrail.source_isAbsolute hplain hlist
  rw [htrail.source_location] at hnow
  intro name node hmem
  obtain ⟨hname, hat⟩ := hkept.sound.of_mem_dir hnow hmem
  rw [List.append_assoc, hkept.same_below] at hat
  exact ⟨hname, hat⟩

/-- No call of a copy changes anything at or below the source. -/
theorem kept_copyLevels (hapart : before.Apart source target) (levels : Nat) :
    KeepsSource before source target (copyLevels levels) := by
  induction levels with
  | zero => exact fun hkept _ _ => hkept
  | succ levels ih =>
      intro fs source' target' e es hkept htrail hdir
      have hat : (before.at? (source.location ++ e)).isSome := by rw [hdir]; rfl
      have hmade := kept_makeTarget hkept (htrail.target_away hapart hat)
      rw [copyLevels]
      split
      · next made hok =>
          rw [hok] at hmade
          split
          · exact hmade
          · next es' hlist =>
              exact kept_copyEntries hapart ih hmade htrail
                (listed_of_readDirectory hapart hmade htrail hdir hlist)
      · exact hmade

/-- What holds of a call holds of every call that it makes. -/
theorem TreeCopy.within_of_enters (hapart : before.Apart source target) {call next : TreeCopy}
    (henters : call.Enters next) (hwithin : call.Within before source target) :
    next.Within before source target := by
  cases henters with
  | @entry levels fs made now source' target' listed later name node hok hlist hcopied hnode =>
      obtain ⟨hkept, e, es, htrail, hdir⟩ := hwithin
      have hat : (before.at? (source.location ++ e)).isSome := by rw [hdir]; rfl
      have hmade := kept_makeTarget hkept (htrail.target_away hapart hat)
      rw [hok] at hmade
      have hall := listed_of_readDirectory hapart hmade htrail hdir hlist
      have hbefore : Listed before source e listed := fun name' node' hmem =>
        hall name' node' (by simp [hmem])
      have hnow := kept_copyEntries hapart (kept_copyLevels hapart levels) hmade htrail hbefore
      rw [hcopied] at hnow
      obtain ⟨hname, hentry⟩ := hall name node (by simp)
      refine ⟨hnow, e ++ [name], ?_⟩
      cases node with
      | dir es' => exact ⟨es', htrail.push hname, hentry⟩
      | file id => cases hnode
      | link path => cases hnode

/-- The first call, and every call that comes of it, is for a directory that was there. -/
theorem TreeCopy.within_of_calls (hapart : before.Apart source target) {first call : TreeCopy}
    (hcalls : Relation.ReflTransGen TreeCopy.Enters first call)
    (hfirst : first.Within before source target) : call.Within before source target := by
  induction hcalls with
  | refl => exact hfirst
  | tail _ henters ih => exact within_of_enters hapart henters ih

end Calls

end LuaShell.FileSystem
