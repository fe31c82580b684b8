import LuaShell.Proofs.Copy.IntoItself
import LuaShell.Proofs.FileSystem.Spelled

/-!
# Copies to a fresh place

A tree without links is copied to a place where nothing stands.  Whatever its shape and the
order of its directories, the copy gets to its end, and what is new afterwards is the tree
once more, in new files with the old bytes, and the directories above it that were missing
(`copy_fresh_tree`).  The induction goes down the tree, and in each directory along the
entries that it lists.  Each entry is copied to a free place of its own, and what has been
copied is beside all that is still to come.
-/

namespace LuaShell

/-- Neither location is at or below the other. -/
def Location.Beside (a b : Location) : Prop :=
  ¬ a <+: b ∧ ¬ b <+: a

theorem Location.Beside.symm {a b : Location} (h : a.Beside b) : b.Beside a :=
  ⟨h.2, h.1⟩

theorem Location.Beside.append {a b : Location} (h : a.Beside b) (r r' : List Name) :
    (a ++ r).Beside (b ++ r') := by
  constructor
  · intro hunder
    exact (List.prefix_or_prefix_of_prefix ((List.prefix_append a r).trans hunder)
      (List.prefix_append b r')).elim h.1 h.2
  · intro hunder
    exact (List.prefix_or_prefix_of_prefix ((List.prefix_append b r').trans hunder)
      (List.prefix_append a r)).elim h.2 h.1

/-- What is beside a place is beside all that is below it. -/
theorem Location.Beside.of_append {a b : Location} (h : a.Beside b) (r : List Name) :
    (a ++ r).Beside b := by
  simpa using h.append r []

theorem Location.beside_concat {l : Location} {x y : Name} (hne : x ≠ y) :
    (l ++ [x]).Beside (l ++ [y]) := by
  constructor
  · rw [List.prefix_append_right_inj]
    simpa using hne
  · rw [List.prefix_append_right_inj]
    simpa using hne.symm

namespace FileSystem

open LuaShell.Path (IsName ofNames Spellable)

/-! ## What is added -/

/-- All that is new stands on the way to a place or at or below it, and no file has changed. -/
structure AddsAt (before : FileSystem) (l : Location) (after : FileSystem) : Prop where
  grows : before.GrowsTo after
  beside : ∀ l', l.Beside l' → after.at? l' = before.at? l'
  files : ∀ (id : Nat) (f : File), before.files[id]? = some f → after.files[id]? = some f
  sound : after.Sound

namespace AddsAt

variable {a b c : FileSystem} {l : Location}

theorem refl (hsound : a.Sound) (l : Location) : AddsAt a l a :=
  ⟨GrowsTo.refl a, fun _ _ => rfl, fun _ _ h => h, hsound⟩

theorem trans (hab : AddsAt a l b) (hbc : AddsAt b l c) : AddsAt a l c :=
  ⟨hab.grows.trans hbc.grows, fun l' hl' => (hbc.beside l' hl').trans (hab.beside l' hl'),
    fun id f h => hbc.files id f (hab.files id f h), hbc.sound⟩

theorem of_append {r : List Name} (h : AddsAt a (l ++ r) b) : AddsAt a l b :=
  ⟨h.grows, fun l' hl' => h.beside l' (hl'.of_append r), h.files, h.sound⟩

theorem size_le (h : AddsAt a l b) : a.files.size ≤ b.files.size :=
  size_le_of_contents h.files

end AddsAt

theorem MadeTo.addsAt {before after : FileSystem} {l : Location} (h : MadeTo before l after)
    (hsound : before.Sound) : AddsAt before l after :=
  ⟨h.grows, fun l' hl' => h.same l' hl'.2, fun _ _ hf => by rwa [h.files], h.sound hsound⟩

/-! ## What is copied -/

/-- An entry and its copy: both are missing, both are directories, or both are files of the same
content, the copy in a new file. -/
inductive Alike (before after : FileSystem) : Option Node → Option Node → Prop
  | missing : Alike before after none none
  | dir (es es' : List (Name × Node)) : Alike before after (some (.dir es)) (some (.dir es'))
  | file {id id' : Nat} {f : File} (hnew : before.files.size ≤ id')
      (hold : before.files[id]? = some f) (hcopy : after.files[id']? = some f) :
      Alike before after (some (.file id)) (some (.file id'))

/-- What was copied stays a copy of what stood there before. -/
theorem Alike.widen {before mid now after : FileSystem} {l l' : Location} {n m : Option Node}
    (h : Alike mid now n m) (hbefore : AddsAt before l mid) (hafter : AddsAt now l' after)
    (hn : ∀ id, n = some (.file id) → id < before.files.size) : Alike before after n m := by
  cases h with
  | missing => exact .missing
  | dir es es' => exact .dir es es'
  | @file id id' f hnew hold hcopy =>
      have hid : id < before.files.size := hn id rfl
      have hsame := hbefore.files id before.files[id] (by simp [hid])
      rw [hold] at hsame
      cases hsame
      exact .file (hbefore.size_le.trans hnew) (by simp [hid]) (hafter.files _ _ hcopy)

/-- Everything at and below `s` has its copy at or below `t`, and nothing else is new. -/
structure CopyOf (before : FileSystem) (s t : Location) (after : FileSystem) : Prop where
  adds : AddsAt before t after
  alike : ∀ r, Alike before after (before.at? (s ++ r)) (after.at? (t ++ r))

/-- A tree without links that can be copied to a place beside it without any path getting too
long. -/
structure Copyable (fs : FileSystem) (s t : Location) : Prop where
  sound : fs.Sound
  dir : ∃ es, fs.at? s = some (.dir es)
  noLinks : ∀ r path, fs.at? (s ++ r) ≠ some (.link path)
  beside : s.Beside t
  spelled : ∀ r, (fs.at? (s ++ r)).isSome → Spellable (s ++ r) ∧ Spellable (t ++ r)

namespace Copyable

variable {fs fs' : FileSystem} {s t : Location}

theorem root (h : Copyable fs s t) : fs.root.isDir = true := by
  obtain ⟨es, hes⟩ := h.dir
  obtain ⟨es', hes'⟩ := Node.dir_above List.nil_prefix hes
  rw [Node.at?_nil, Option.some.injEq] at hes'
  exact Node.isDir_iff.mpr ⟨es', hes'⟩

/-- What is added at the target leaves the tree as it is. -/
theorem at?_of_addsAt (h : Copyable fs s t) (hadds : AddsAt fs t fs') (r : List Name) :
    fs'.at? (s ++ r) = fs.at? (s ++ r) :=
  hadds.beside _ (h.beside.of_append r).symm

theorem of_addsAt (h : Copyable fs s t) (hadds : AddsAt fs t fs') : Copyable fs' s t := by
  have hsame := h.at?_of_addsAt hadds
  refine ⟨hadds.sound, ?_, fun r path => hsame r ▸ h.noLinks r path, h.beside,
    fun r => hsame r ▸ h.spelled r⟩
  have hs := hsame []
  rw [List.append_nil] at hs
  rw [hs]
  exact h.dir

theorem child (h : Copyable fs s t) {n : Name} {es : List (Name × Node)}
    (hdir : fs.at? (s ++ [n]) = some (.dir es)) : Copyable fs (s ++ [n]) (t ++ [n]) := by
  refine ⟨h.sound, ⟨es, hdir⟩, fun r path => ?_, h.beside.append [n] [n], fun r => ?_⟩
  · rw [List.append_assoc]
    exact h.noLinks _ path
  · rw [List.append_assoc, List.append_assoc]
    exact h.spelled _

end Copyable

/-! ## One entry -/

section Entry

variable {fs : FileSystem} {s t : Location} {n : Name} {es : List (Name × Node)} {id : Nat}

/-- A new file is a copy of the file whose content it has. -/
theorem copyOf_insertFile (hsound : fs.Sound) (hn : IsName n)
    (hdir : fs.at? t = some (.dir es)) (hfree : fs.at? (t ++ [n]) = none)
    (hat : fs.at? s = some (.file id)) {f : File} (hf : fs.files[id]? = some f) :
    CopyOf fs s (t ++ [n]) (fs.insertFile t n f) := by
  have hinsert : ∀ l, (fs.insertFile t n f).at? l = (fs.insert t n (.file fs.files.size)).at? l :=
    fun _ => rfl
  refine ⟨⟨growsTo_insertFile hdir hfree f, fun l' hl' => ?_, fun id f hid => ?_,
    hsound.insertFile t hn f⟩, fun r => ?_⟩
  · exact (hinsert l').trans (at?_insert_of_not_above hdir hfree rfl hl'.2)
  · exact contents_insertFile fs t n _ hid
  · rw [hinsert, List.append_assoc, List.singleton_append, at?_insert hdir]
    cases r with
    | nil =>
        rw [List.append_nil, hat, Node.at?_nil]
        exact .file (Nat.le_refl _) hf (by simp [insertFile])
    | cons x r =>
        have hbelow : fs.at? (s ++ x :: r) = none := by
          have hat' : fs.root.at? s = some (.file id) := hat
          simp [at?, Node.at?_append, hat', Node.at?_cons, Node.child?, Node.entries]
        rw [hbelow]
        simpa [Node.at?_cons, Node.child?, Node.entries] using Alike.missing

/-- A file is copied into a new one. -/
theorem copyFile_fresh (hroot : fs.root.isDir = true) (hs : Spellable s)
    (ht : Spellable (t ++ [n])) (hdir : fs.at? t = some (.dir es))
    (hfree : fs.at? (t ++ [n]) = none) (hat : fs.at? s = some (.file id)) {f : File}
    (hf : fs.files[id]? = some f) :
    fs.copyFile (ofNames s) (ofNames (t ++ [n])) = .ok (fs.insertFile t n f) := by
  have hstat := stat_ofNames hroot hs hat rfl
  have hslot := findSlot_ofNames ht hdir (Or.inl hfree)
  have hchild : (fs.at? t).bind (·.child? n) = none :=
    (Node.at?_concat fs.root t n).symm.trans hfree
  simp only [copyFile, hstat, hslot, hchild, hf, Option.map_some, Option.getD_some]

/-- What a recursive call does for a directory. -/
def CopiesFresh (copyDirectory : FileSystem → Path → Path → Outcome) (s t : Location) : Prop :=
  ∀ fs, Copyable fs s t → fs.at? t = none → fs.DirsTo t →
    ∃ fs', copyDirectory fs (ofNames s) (ofNames t) = (.ok (), fs') ∧ CopyOf fs s t fs'

/-- An entry is copied to a free place in a directory. -/
theorem copyEntry_fresh {copyDirectory : FileSystem → Path → Path → Outcome}
    (hcopy : CopiesFresh copyDirectory (s ++ [n]) (t ++ [n])) (h : Copyable fs s t)
    (hdir : fs.at? t = some (.dir es)) (hfree : fs.at? (t ++ [n]) = none) {node : Node}
    (hat : fs.at? (s ++ [n]) = some node) :
    ∃ fs', copyEntry copyDirectory (ofNames s) (ofNames t) fs n node = (.ok (), fs') ∧
      CopyOf fs (s ++ [n]) (t ++ [n]) fs' := by
  obtain ⟨hs, ht⟩ := h.spelled [n] (by simp [hat])
  have hn : IsName n := hs.isName n (by simp)
  have hsnames := (hs.of_prefix (List.prefix_append s [n])).isName
  have htnames := (ht.of_prefix (List.prefix_append t [n])).isName
  rw [copyEntry, Path.push_ofNames hsnames hn, Path.push_ofNames htnames hn]
  cases node with
  | dir es' =>
      have hdirs : fs.DirsTo (t ++ [n]) := by
        intro l v hl hv
        rcases List.prefix_concat_iff.mp hl with rfl | habove
        · rw [hfree] at hv
          cases hv
        · obtain ⟨es'', hes''⟩ := Node.dir_above habove hdir
          rw [show fs.at? l = _ from hes''] at hv
          cases hv
          rfl
      exact hcopy fs (h.child hat) hfree hdirs
  | file id =>
      have hid : id < fs.files.size := h.sound.file_lt hat
      have hf : fs.files[id]? = some fs.files[id] := by simp [hid]
      rw [copyFile_fresh h.root hs ht hdir hfree hat hf]
      exact ⟨_, rfl, copyOf_insertFile h.sound hn hdir hfree hat hf⟩
  | link path => exact absurd hat (h.noLinks [n] path)

end Entry

/-! ## All entries of a directory -/

/-- The listed entries of `s` have their copies in `t`, and no other name is new there. -/
structure EntriesCopied (before : FileSystem) (s t : Location) (es : List (Name × Node))
    (after : FileSystem) : Prop where
  adds : AddsAt before t after
  alike : ∀ name ∈ es.map (·.1), ∀ r,
    Alike before after (before.at? (s ++ name :: r)) (after.at? (t ++ name :: r))
  others : ∀ x ∉ es.map (·.1), ∀ r, after.at? (t ++ x :: r) = before.at? (t ++ x :: r)

section Entries

variable {fs fs₁ fs' : FileSystem} {s t : Location} {name : Name} {node : Node}
  {rest : List (Name × Node)}

/-- One entry has been copied, and then the others: all of them have been. -/
theorem EntriesCopied.cons (h : Copyable fs s t) (hfirst : CopyOf fs (s ++ [name]) (t ++ [name]) fs₁)
    (hrest : EntriesCopied fs₁ s t rest fs') (hname : name ∉ rest.map (·.1)) :
    EntriesCopied fs s t ((name, node) :: rest) fs' := by
  have hadds := hfirst.adds.of_append
  have hold : ∀ r id, fs.at? (s ++ r) = some (.file id) → id < fs.files.size := fun r id hat =>
    h.sound.file_lt hat
  refine ⟨hadds.trans hrest.adds, ?_, ?_⟩
  · intro x hx r
    rw [List.map_cons, List.mem_cons] at hx
    rcases hx with rfl | hx
    · rw [hrest.others x hname r]
      have hcopied := hfirst.alike r
      rw [List.append_assoc, List.append_assoc, List.singleton_append] at hcopied
      exact hcopied.widen (AddsAt.refl h.sound t) hrest.adds fun id => hold _ id
    · rw [← h.at?_of_addsAt hadds]
      refine (hrest.alike x hx r).widen hadds (AddsAt.refl hrest.adds.sound t) ?_
      rw [h.at?_of_addsAt hadds]
      exact fun id => hold _ id
  · intro x hx r
    rw [List.map_cons, List.mem_cons, not_or] at hx
    rw [hrest.others x hx.2 r]
    refine hfirst.adds.beside _ ?_
    have hbeside := (Location.beside_concat (l := t) (Ne.symm hx.1)).symm.of_append r
    rw [List.append_assoc, List.singleton_append] at hbeside
    exact hbeside.symm

/-- The entries of a directory are copied one after the other, each to a place of its own. -/
theorem copyEntries_fresh {copyDirectory : FileSystem → Path → Path → Outcome}
    (hcopy : ∀ n, CopiesFresh copyDirectory (s ++ [n]) (t ++ [n])) (h : Copyable fs s t)
    {es' : List (Name × Node)} (hdir : fs.at? t = some (.dir es')) {es : List (Name × Node)}
    (hnodup : (es.map (·.1)).Nodup)
    (hlisted : ∀ name node, (name, node) ∈ es →
      fs.at? (s ++ [name]) = some node ∧ fs.at? (t ++ [name]) = none) :
    ∃ fs', copyEntries copyDirectory (ofNames s) (ofNames t) fs es = (.ok (), fs') ∧
      EntriesCopied fs s t es fs' := by
  induction es generalizing fs es' with
  | nil => exact ⟨fs, rfl, AddsAt.refl h.sound t, by simp, fun _ _ _ => rfl⟩
  | cons entry rest ih =>
      obtain ⟨name, node⟩ := entry
      rw [List.map_cons, List.nodup_cons] at hnodup
      obtain ⟨hat, hfree⟩ := hlisted name node (List.mem_cons_self ..)
      obtain ⟨fs₁, hok, hfirst⟩ := copyEntry_fresh (hcopy name) h hdir hfree hat
      have hadds := hfirst.adds.of_append
      obtain ⟨es₁, hdir₁⟩ := hadds.grows.root.dir hdir
      -- What is still to be copied is where it was, and its place is still free.
      have hlisted₁ : ∀ name' node', (name', node') ∈ rest →
          fs₁.at? (s ++ [name']) = some node' ∧ fs₁.at? (t ++ [name']) = none := by
        intro name' node' hmem
        obtain ⟨hat', hfree'⟩ := hlisted name' node' (List.mem_cons_of_mem _ hmem)
        have hne : name ≠ name' := by
          rintro rfl
          exact hnodup.1 (List.mem_map.mpr ⟨(name, node'), hmem, rfl⟩)
        rw [h.at?_of_addsAt hadds, hfirst.adds.beside _ (Location.beside_concat hne)]
        exact ⟨hat', hfree'⟩
      obtain ⟨fs', hrest, hcopied⟩ := ih (h.of_addsAt hadds) hdir₁ hnodup.2 hlisted₁
      refine ⟨fs', ?_, .cons h hfirst hcopied hnodup.1⟩
      rw [copyEntries, hok]
      exact hrest

end Entries

/-! ## All levels -/

/-- A directory has been copied when its entries have been copied to the empty directory that has
been made for them. -/
theorem copyOf_of_entries {fs made fs' : FileSystem} {s t : Location} {es : List (Name × Node)}
    (h : Copyable fs s t) (hmade : MadeTo fs t made) (hdir : fs.at? s = some (.dir es))
    (hcopied : EntriesCopied made s t es fs') : CopyOf fs s t fs' := by
  have hadds := hmade.addsAt h.sound
  refine ⟨hadds.trans hcopied.adds, fun r => ?_⟩
  cases r with
  | nil =>
      obtain ⟨es', hes'⟩ := hcopied.adds.grows.root.dir hmade.there
      rw [List.append_nil, List.append_nil, hdir, show fs'.at? t = _ from hes']
      exact .dir es es'
  | cons x r =>
      by_cases hx : x ∈ es.map (·.1)
      · have halike := hcopied.alike x hx r
        rw [h.at?_of_addsAt hadds] at halike
        exact halike.widen hadds (AddsAt.refl hcopied.adds.sound t) fun id hat =>
          h.sound.file_lt hat
      -- What is not listed is missing in both directories.
      · have hsource : fs.at? (s ++ x :: r) = none := Node.at?_of_not_listed hdir hx r
        have htarget : fs'.at? (t ++ x :: r) = none :=
          (hcopied.others x hx r).trans (Node.at?_of_not_listed hmade.there (by simp) r)
        rw [hsource, htarget]
        exact .missing

/-- With a level for every name that a path can have, a copy to a fresh place gets to its end. -/
theorem copyLevels_fresh (levels : Nat) {s t : Location}
    (hlevels : Path.maxLength < levels + s.length) : CopiesFresh (copyLevels levels) s t := by
  induction levels generalizing s t with
  | zero =>
      -- So many names cannot be spelled, so there is no such directory.
      intro fs h
      obtain ⟨es, hdir⟩ := h.dir
      have hspelled := (h.spelled [] (by simp [hdir])).1.length_lt
      rw [List.append_nil] at hspelled
      omega
  | succ levels ih =>
      intro fs h hfree hdirs
      obtain ⟨es, hdir⟩ := h.dir
      obtain ⟨hs, ht⟩ := h.spelled [] (by simp [hdir])
      rw [List.append_nil] at hs ht
      have hlength : t.length ≤ (ofNames t).bytes.length := by
        have := Path.length_le_unparts fun n hn => (ht.isName n hn).ne_nil
        simp only [ofNames, List.length_cons]
        omega
      obtain ⟨made, hok, hmade⟩ := makeDirectories_ofNames ht hdirs hfree hlength
      have hadds := hmade.addsAt h.sound
      have h' := h.of_addsAt hadds
      have hdir' : made.at? s = some (.dir es) := by
        have hsame := h.at?_of_addsAt hadds []
        rwa [List.append_nil, hdir] at hsame
      have htarget : fs.makeTarget (ofNames t) = (.ok (), made) := by
        rw [makeTarget, pathExists_missing ht.isName hdirs hfree, makeAllDirectories, hok]
        rfl
      have hlist : made.readDirectory (ofNames s) = .ok es := by
        rw [readDirectory, stat_ofNames h'.root hs hdir' rfl]
      have hnodup : (es.map (·.1)).Nodup := by
        cases Node.Sound.at? h.sound hdir with
        | dir _ _ hnodup _ => exact hnodup
      have hlisted : ∀ name node, (name, node) ∈ es →
          made.at? (s ++ [name]) = some node ∧ made.at? (t ++ [name]) = none :=
        fun name node hmem => ⟨(h'.sound.of_mem_dir hdir' hmem).2,
          Node.at?_concat_of_dir hmade.there name⟩
      have hlevels' : ∀ n : Name, Path.maxLength < levels + (s ++ [n]).length := by
        intro n
        rw [List.length_append, List.length_singleton]
        omega
      obtain ⟨fs', hcopied, hentries⟩ :=
        copyEntries_fresh (fun n => ih (hlevels' n)) h' hmade.there hnodup hlisted
      refine ⟨fs', ?_, copyOf_of_entries h hmade hdir hentries⟩
      rw [copyLevels, htarget]
      simp only [hlist, hcopied]

end FileSystem

namespace FileCommand

open LuaShell.FileSystem
open LuaShell.Path (IsName ofNames Spellable)

/-- The copy of a tree of directories and files to a canonical path where nothing stands, below
directories or what is missing, ends well.  Afterwards every entry of the tree has its copy at the
same names below the target, a file as a new one with its content, there are directories all the
way to the target, and everything else is as it was: every entry that is not on that way, the
source among them, every file and the process directory.  A path that cannot be spelled is the one
limit of the system that is left. -/
theorem copy_fresh_tree {fs : FileSystem} (hsound : fs.Sound) {source target : Path}
    (hsource : source.IsCanonical) (htarget : target.IsCanonical) {es : List (Name × Node)}
    (hdir : fs.at? source.location = some (.dir es))
    (hnoLinks : ∀ r path, fs.at? (source.location ++ r) ≠ some (.link path))
    (houtside : target.startsWith source = false) (hfree : fs.at? target.location = none)
    (hdirs : fs.DirsTo target.location)
    (hspelled : ∀ r, (fs.at? (source.location ++ r)).isSome →
      Spellable (source.location ++ r) ∧ Spellable (target.location ++ r)) :
    ∃ fs', copy fs source target = (.ok (), fs') ∧ fs'.Sound ∧
      (∀ r, Alike fs fs' (fs.at? (source.location ++ r)) (fs'.at? (target.location ++ r))) ∧
      (∀ l, l <+: target.location → ∃ es, fs'.at? l = some (.dir es)) ∧
      (∀ l, ¬ l <+: target.location → ¬ target.location <+: l → fs'.at? l = fs.at? l) ∧
      (∀ r, fs'.at? (source.location ++ r) = fs.at? (source.location ++ r)) ∧
      (∀ (id : Nat) (f : File), fs.files[id]? = some f → fs'.files[id]? = some f) ∧
      fs'.here = fs.here := by
  obtain ⟨s, hs, rfl⟩ := Path.isCanonical_iff.mp hsource
  obtain ⟨t, ht, rfl⟩ := Path.isCanonical_iff.mp htarget
  have hapart : ¬ (ofNames s).location <+: (ofNames t).location := by
    rw [← Path.normalize_startsWith_iff (Path.isAbsolute_ofNames t) (Path.isAbsolute_ofNames s),
      Path.normalize_of_isAbsolute (Path.isAbsolute_ofNames t),
      Path.normalize_of_isAbsolute (Path.isAbsolute_ofNames s), Path.location_ofNames hs,
      Path.location_ofNames ht, houtside]
    simp
  have hsome : (fs.at? (ofNames s).location).isSome := by
    rw [hdir]
    rfl
  have hbeside : (ofNames s).location.Beside (ofNames t).location :=
    ⟨hapart, not_above_of_none hfree hsome⟩
  rw [Path.location_ofNames hs] at *
  rw [Path.location_ofNames ht] at *
  have hcopyable : Copyable fs s t := ⟨hsound, ⟨es, hdir⟩, hnoLinks, hbeside, hspelled⟩
  obtain ⟨fs', hok, hadds, halike⟩ :=
    copyLevels_fresh (Path.maxLength + 1) (by omega) fs hcopyable hfree hdirs
  have hisDir : fs.isDirectory (ofNames s) = true :=
    isDirectory_ofNames hcopyable.root (by simpa using (hspelled [] (by simpa using hsome)).1) hdir
  refine ⟨fs', ?_, hadds.sound, halike, ?_, fun l habove hbelow => hadds.beside l ⟨hbelow, habove⟩,
    hcopyable.at?_of_addsAt hadds, hadds.files, hadds.grows.here⟩
  · rw [copy_of_outside (Path.isAbsolute_ofNames s) (Path.isAbsolute_ofNames t) hisDir
      (by rwa [Path.location_ofNames hs, Path.location_ofNames ht]), copyTree, hok]
    rfl
  -- The target is a directory as the source is one, so all above it are directories.
  · intro l hl
    have htop := halike []
    rw [List.append_nil, List.append_nil, hdir] at htop
    cases hthere : fs'.at? t with
    | none =>
        rw [hthere] at htop
        cases htop
    | some v =>
        rw [hthere] at htop
        cases htop with
        | dir _ es' => exact Node.dir_above hl hthere

/-- A nested tree is copied below a directory that is missing and whose name begins with that of
the tree. -/
theorem copy_fresh_tree_nested :
    let d := Text.toBytes "d"
    let f := Text.toBytes "f"
    let e := Text.toBytes "e"
    let g := Text.toBytes "g"
    let inner : List (Name × Node) := [(f, .file 0), (e, .dir [(g, .file 1)])]
    let fs : FileSystem := ⟨.dir [(d, .dir inner)],
      #[⟨⟨#[1]⟩, File.defaultMode⟩, ⟨⟨#[2, 3]⟩, 0o755⟩], none⟩
    let source := Path.ofString "/d"
    let target := Path.ofString "/d2/new"
    fs.Sound ∧ source.IsCanonical ∧ target.IsCanonical ∧
      fs.at? source.location = some (.dir inner) ∧
      (∀ r path, fs.at? (source.location ++ r) ≠ some (.link path)) ∧
      target.startsWith source = false ∧ fs.at? target.location = none ∧
      fs.DirsTo target.location ∧
      (∀ r, (fs.at? (source.location ++ r)).isSome →
        Spellable (source.location ++ r) ∧ Spellable (target.location ++ r)) ∧
      ∃ fs', copy fs source target = (.ok (), fs') ∧
        ∀ r, Alike fs fs' (fs.at? (source.location ++ r)) (fs'.at? (target.location ++ r)) := by
  intro d f e g inner fs source target
  have hsound : fs.Sound := by decide
  have hfree : fs.root.LinkFree := by decide
  have hlocation : source.location = [d] := by decide
  have hlocation' : target.location = [Text.toBytes "d2", Text.toBytes "new"] := by decide
  have hspelled : ∀ r ∈ (Node.dir inner).locations,
      Spellable ([d] ++ r) ∧ Spellable ([Text.toBytes "d2", Text.toBytes "new"] ++ r) := by
    decide
  have hcanonical : source.IsCanonical := ⟨by decide, Or.inr (by decide)⟩
  have hcanonical' : target.IsCanonical := ⟨by decide, Or.inr (by decide)⟩
  have hdirs : fs.DirsTo target.location := by
    rw [hlocation']
    intro l v hl hv
    obtain - | ⟨x, - | ⟨y, l⟩⟩ := l
    · cases hv
      rfl
    all_goals
      obtain ⟨rfl, -⟩ := List.cons_prefix_cons.mp hl
      cases hv
  have hnoLinks : ∀ r path, fs.at? (source.location ++ r) ≠ some (.link path) :=
    fun r path hat => hfree _ path hat
  have houtside : target.startsWith source = false := by decide
  have hdir : fs.at? source.location = some (.dir inner) := by
    rw [hlocation]
    cbv
  have hmissing : fs.at? target.location = none := by
    rw [hlocation']
    cbv
  have hlimit : ∀ r, (fs.at? (source.location ++ r)).isSome →
      Spellable (source.location ++ r) ∧ Spellable (target.location ++ r) := by
    intro r hr
    obtain ⟨m, hm⟩ := Option.isSome_iff_exists.mp hr
    rw [FileSystem.at?, Node.at?_append, ← FileSystem.at?, hdir] at hm
    rw [hlocation, hlocation']
    exact hspelled r (Node.mem_locations hm)
  obtain ⟨fs', hok, -, halike, -⟩ := copy_fresh_tree hsound hcanonical hcanonical' hdir hnoLinks
    houtside hmissing hdirs hlimit
  exact ⟨hsound, hcanonical, hcanonical', hdir, hnoLinks, houtside, hmissing, hdirs, hlimit, fs', hok,
    halike⟩

end FileCommand

end LuaShell
