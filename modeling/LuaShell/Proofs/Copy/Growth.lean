import LuaShell.Proofs.Copy.SingleFile
import LuaShell.Proofs.FileSystem.Removal

/-!
# Copies only add

Making files and directories and copying trees is made of two steps: a new directory, and
the copy of a file into its slot.  What both of them preserve holds after every copy, in
whatever way it has ended (`copyLevels_preserves`).  Both are growth, so a copy takes
nothing away (`growsTo_copyTree`), and what was a directory stays one.
-/

namespace LuaShell.FileSystem

/-! ## Single steps -/

theorem growsTo_makeDirectory {fs fs' : FileSystem} {p : Path}
    (hmade : fs.makeDirectory p = .ok fs') : fs.GrowsTo fs' := by
  obtain ⟨d, n, es, hdir, hfree, -, rfl, -⟩ := of_makeDirectory hmade
  exact growsTo_insert hdir hfree (Node.linkFree_dir (by simp))

theorem growsTo_createFile {fs fs' : FileSystem} {p : Path} (hmade : fs.createFile p = .ok fs') :
    fs.GrowsTo fs' := by
  unfold createFile at hmade
  split at hmade
  · cases hmade
  · cases hmade
  · next d n hparent =>
      obtain ⟨-, -, origin, left, -, hfrom⟩ := findParent_eq_ok_iff.mp hparent
      obtain ⟨-, es, hdir⟩ := parentFrom_eq_ok_iff.mp hfrom
      split at hmade
      · cases hmade
      · cases hmade
      · next hentry =>
          cases hmade
          exact growsTo_insertFile hdir (entryAt_eq_ok_iff.mp hentry).2 _
  · cases hmade

/-- New contents are no change of the tree. -/
theorem growsTo_setFile (fs : FileSystem) (id : Nat) (f : File) : fs.GrowsTo (fs.setFile id f) :=
  ⟨Node.GrowsTo.refl fs.root, rfl⟩

theorem growsTo_copyFile {fs fs' : FileSystem} {source target : Path}
    (hcopy : fs.copyFile source target = .ok fs') : fs.GrowsTo fs' := by
  unfold copyFile at hcopy
  split at hcopy
  · cases hcopy
  · split at hcopy
    · cases hcopy
    · next d n hslot =>
        obtain ⟨⟨es, hdir⟩, -, hentry⟩ := slot_of_findSlot hslot
        have hchild : fs.at? (d ++ [n]) = (fs.at? d).bind (·.child? n) := Node.at?_concat _ _ _
        split at hcopy
        · cases hcopy
          exact (growsTo_setFile fs _ _).trans (growsTo_setFile _ _ _)
        -- The slot holds a file or nothing.
        · next hnotFile =>
            cases hcopy
            refine growsTo_insertFile hdir (hentry.resolve_right ?_) _
            rintro ⟨old, hold⟩
            exact hnotFile old (hchild.symm.trans hold)
  · cases hcopy

/-- Where every file has kept its content, no file has gone. -/
theorem size_le_of_contents {a b : FileSystem}
    (hcontents : ∀ (id : Nat) (f : File), a.files[id]? = some f → b.files[id]? = some f) :
    a.files.size ≤ b.files.size := by
  by_contra hlt
  have hlt : b.files.size < a.files.size := by omega
  have hsome := hcontents b.files.size a.files[b.files.size] (by simp [hlt])
  simp at hsome

/-! ## What has been made -/

section Made

variable {fs fs' : FileSystem} {p : Path}

/-- A directory that has been made is found by its path. -/
theorem pathExists_makeDirectory (hmade : fs.makeDirectory p = .ok fs') :
    fs'.pathExists p = true := by
  have hgrow := growsTo_makeDirectory hmade
  unfold makeDirectory at hmade
  split at hmade
  · cases hmade
  · next d n slash hparent =>
      obtain ⟨hrefusal, hlast, origin, left, hstart, hfrom⟩ := findParent_eq_ok_iff.mp hparent
      obtain ⟨hwalk, es, hdir⟩ := parentFrom_eq_ok_iff.mp hfrom
      split at hmade
      · cases hmade
      · cases hmade
      · next hentry =>
          cases hmade
          have hparent' : (fs.insert d n (.dir [])).findParent p = .ok (d, .name n slash) :=
            findParent_eq_ok_iff.mpr ⟨hrefusal, hlast, origin, left,
              by rw [start_of_growsTo hgrow, hstart], parentFrom_eq_ok_iff.mpr
                ⟨walk_of_growsTo hgrow.root hwalk, hgrow.root.dir hdir⟩⟩
          have hnew : (fs.insert d n (.dir [])).at? (d ++ [n]) = some (.dir []) :=
            at?_insert_self hdir _
          exact pathExists_iff.mpr ⟨d ++ [n], .dir [], find_of_findParent hparent'
            (entryAt_eq_ok_iff.mp hentry).1 hnew (Or.inl rfl) (Or.inr rfl), hnew⟩
  · cases hmade

theorem pathExists_acceptDirectory {made : Except IoError FileSystem}
    (hmade : ∀ fs', made = .ok fs' → fs'.pathExists p = true)
    (hok : fs.acceptDirectory p made = (.ok (), fs')) : fs'.pathExists p = true := by
  unfold acceptDirectory at hok
  split at hok
  · cases hok
    exact hmade _ rfl
  · split at hok
    · next hdir =>
        cases hok
        obtain ⟨l, es, hfind, hat⟩ := isDirectory_iff.mp hdir
        exact pathExists_iff.mpr ⟨l, .dir es, hfind, hat⟩
    · cases hok

theorem pathExists_makeDirectories {levels : Nat} (hne : p.bytes ≠ [])
    (hok : fs.makeDirectories levels p = (.ok (), fs')) : fs'.pathExists p = true := by
  unfold makeDirectories at hok
  rw [if_neg hne] at hok
  split at hok
  · next hmade =>
      cases hok
      exact pathExists_makeDirectory hmade
  · split at hok
    · exact pathExists_acceptDirectory (fun _ h => by cases h) hok
    · split at hok
      · split at hok
        · exact pathExists_acceptDirectory (fun _ h => pathExists_makeDirectory h) hok
        · next hfailed => exact (hfailed fs' hok).elim
      · cases hok

/-- A call goes on when there is something at its target, whatever it is. -/
theorem pathExists_makeTarget (hp : p.isAbsolute = true)
    (hok : fs.makeTarget p = (.ok (), fs')) : fs'.pathExists p = true := by
  unfold makeTarget at hok
  split at hok
  · next hexists =>
      cases hok
      exact hexists
  · obtain ⟨bs, hbs⟩ := Path.isAbsolute_iff.mp hp
    exact pathExists_makeDirectories (by simp [hbs]) hok

end Made

/-! ## Whole copies -/

section Preserves

variable {P : FileSystem → Prop}
  (hmake : ∀ {fs fs' : FileSystem} {p : Path}, P fs → fs.makeDirectory p = .ok fs' → P fs')

include hmake

theorem acceptDirectory_preserves {fs : FileSystem} (hfs : P fs) (p : Path) :
    P (fs.acceptDirectory p (fs.makeDirectory p)).2 := by
  unfold acceptDirectory
  split
  · next fs' hmade => exact hmake hfs hmade
  · split
    · exact hfs
    · exact hfs

theorem makeDirectories_preserves {levels : Nat} {fs : FileSystem} (hfs : P fs) (p : Path) :
    P (fs.makeDirectories levels p).2 := by
  fun_induction makeDirectories levels fs p with
  | case1 => exact hfs
  | case2 _ _ _ _ hmade => exact hmake hfs hmade
  | case3 =>
      unfold acceptDirectory
      split
      · next heq => cases heq
      · split <;> exact hfs
  | case4 _ _ _ _ _ _ _ _ fs' hrest ih =>
      rw [hrest] at ih
      exact acceptDirectory_preserves hmake ih _
  | case5 _ _ _ _ _ _ _ _ _ ih => exact ih
  | case6 => exact hfs

theorem makeTarget_preserves {fs : FileSystem} (hfs : P fs) (p : Path) :
    P (fs.makeTarget p).2 := by
  unfold makeTarget
  split
  · exact hfs
  · exact makeDirectories_preserves hmake hfs p

variable (hfile : ∀ {fs fs' : FileSystem} {source target : Path}, P fs →
    fs.copyFile source target = .ok fs' → P fs')

include hfile

omit hmake in
theorem copyEntry_preserves {copyDirectory : FileSystem → Path → Path → Outcome}
    (hcopy : ∀ {fs}, P fs → ∀ source target, P (copyDirectory fs source target).2)
    {fs : FileSystem} (hfs : P fs) (source target : Path) (name : Name) (node : Node) :
    P (copyEntry copyDirectory source target fs name node).2 := by
  unfold copyEntry
  split
  · exact hcopy hfs _ _
  · cases hmade : fs.copyFile (source.push name) (target.push name) with
    | error e => exact hfs
    | ok fs' => exact hfile hfs hmade

omit hmake in
theorem copyEntries_preserves {copyDirectory : FileSystem → Path → Path → Outcome}
    (hcopy : ∀ {fs}, P fs → ∀ source target, P (copyDirectory fs source target).2)
    {fs : FileSystem} (hfs : P fs) (source target : Path) (es : List (Name × Node)) :
    P (copyEntries copyDirectory source target fs es).2 := by
  induction es generalizing fs with
  | nil => exact hfs
  | cons entry rest ih =>
      obtain ⟨name, node⟩ := entry
      have hentry := copyEntry_preserves hfile hcopy hfs source target name node
      rw [copyEntries]
      split
      · next fs' hcopied =>
          rw [hcopied] at hentry
          exact ih hentry
      · exact hentry

/-- What a new directory and the copy of a file preserve, the copy of a tree preserves. -/
theorem copyLevels_preserves (levels : Nat) {fs : FileSystem} (hfs : P fs) (source target : Path) :
    P (copyLevels levels fs source target).2 := by
  induction levels generalizing fs source target with
  | zero => exact hfs
  | succ levels ih =>
      have hmade := makeTarget_preserves hmake hfs target
      rw [copyLevels]
      split
      · next fs' hok =>
          rw [hok] at hmade
          split
          · exact hmade
          · exact copyEntries_preserves hfile (fun hfs => ih hfs) hmade source target _
      · exact hmade

end Preserves

/-- A copy takes nothing away, whether it gets to its end or not. -/
theorem growsTo_copyLevels (levels : Nat) (fs : FileSystem) (source target : Path) :
    fs.GrowsTo (copyLevels levels fs source target).2 :=
  copyLevels_preserves (fun hfs hmade => hfs.trans (growsTo_makeDirectory hmade))
    (fun hfs hcopy => hfs.trans (growsTo_copyFile hcopy)) levels (GrowsTo.refl fs) source target

theorem growsTo_copyEntry (levels : Nat) (fs : FileSystem) (source target : Path) (name : Name)
    (node : Node) : fs.GrowsTo (copyEntry (copyLevels levels) source target fs name node).2 :=
  copyEntry_preserves (fun hfs hcopy => hfs.trans (growsTo_copyFile hcopy))
    (fun hfs source target => hfs.trans (growsTo_copyLevels levels _ source target))
    (GrowsTo.refl fs) source target name node

theorem growsTo_copyEntries (levels : Nat) (fs : FileSystem) (source target : Path)
    (es : List (Name × Node)) : fs.GrowsTo (copyEntries (copyLevels levels) source target fs es).2 :=
  copyEntries_preserves (fun hfs hcopy => hfs.trans (growsTo_copyFile hcopy))
    (fun hfs source target => hfs.trans (growsTo_copyLevels levels _ source target))
    (GrowsTo.refl fs) source target es

theorem growsTo_copyTree (fs : FileSystem) (source target : Path) :
    fs.GrowsTo (fs.copyTree source target).2 :=
  growsTo_copyLevels _ fs source target

end LuaShell.FileSystem
