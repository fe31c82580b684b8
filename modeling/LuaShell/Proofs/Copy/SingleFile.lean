import LuaShell.Command.Files
import LuaShell.Proofs.FileSystem.Slots

/-!
# Copies of single files

A copy opens what it reads, then empties what it writes, and only then moves the bytes.
So it delivers them and leaves them where they were unless both paths lead to one file,
under one name or two, through links or not: then the file is empty afterwards.  What a
copy that succeeds has done is one of three things (`of_copyFile`), and each of them says
what both paths hold then.
-/

namespace LuaShell

namespace FileSystem

/-- Both paths lead to one file, by the same name or by different ones. -/
def SameFile (fs : FileSystem) (p q : Path) : Prop :=
  ∃ id, fs.stat p = .ok (.file id) ∧ fs.stat q = .ok (.file id)

theorem readFile_eq_ok_iff {fs : FileSystem} {p : Path} {bytes : ByteArray} :
    fs.readFile p = .ok bytes ↔
      ∃ id f, fs.stat p = .ok (.file id) ∧ fs.files[id]? = some f ∧ f.bytes = bytes := by
  unfold readFile
  cases hstat : fs.stat p with
  | error e => simp
  | ok n =>
      cases n with
      | file id =>
          cases hid : fs.files[id]? with
          | none => simp [hid, refuse]
          | some f => simp [hid]
      | dir es => simp [refuse]
      | link target => simp [refuse]

/-- What a path leads to does not depend on the contents of files. -/
theorem stat_setFile (fs : FileSystem) (id : Nat) (f : File) (p : Path) :
    (fs.setFile id f).stat p = fs.stat p := rfl

theorem file_lt_of_stat {fs : FileSystem} (hsound : fs.Sound) {p : Path} {id : Nat}
    (hstat : fs.stat p = .ok (.file id)) : id < fs.files.size := by
  obtain ⟨l, -, hat⟩ := stat_eq_ok_iff.mp hstat
  exact hsound.file_lt hat

/-- A new file is growth. -/
theorem growsTo_insertFile {fs : FileSystem} {l : Location} {es : List (Name × Node)}
    {name : Name} (hdir : fs.at? l = some (.dir es)) (hfree : fs.at? (l ++ [name]) = none)
    (f : File) : fs.GrowsTo (fs.insertFile l name f) := by
  obtain ⟨hroot, hhere⟩ := growsTo_insert hdir hfree (Node.linkFree_file fs.files.size)
  exact ⟨hroot, hhere⟩

/-- Beside a new file every file has the content that it had. -/
theorem contents_insertFile (fs : FileSystem) (l : Location) (name : Name) (f : File) {id : Nat}
    {g : File} (hg : fs.files[id]? = some g) : (fs.insertFile l name f).files[id]? = some g := by
  have hid : id < fs.files.size := (Array.getElem?_eq_some_iff.mp hg).1
  rw [← hg]
  simp [insertFile, Array.getElem?_push, Nat.ne_of_lt hid]

/-- What a copy that succeeds has done: a new file that is like the source, or another file made
like it, or the source itself emptied. -/
theorem of_copyFile {fs fs' : FileSystem} (hsound : fs.Sound) {source target : Path}
    (hcopy : fs.copyFile source target = .ok fs') :
    ∃ id f d n, fs.stat source = .ok (.file id) ∧ fs.files[id]? = some f ∧
      fs.findSlot target = .ok (d, n) ∧
      ((fs.at? (d ++ [n]) = none ∧ fs' = fs.insertFile d n f) ∨
        ∃ old, fs.at? (d ++ [n]) = some (.file old) ∧
          fs' = fs.setFile old (if old = id then ⟨.empty, f.mode⟩ else f)) := by
  unfold copyFile at hcopy
  split at hcopy
  · cases hcopy
  · next id hstat =>
      have hid : id < fs.files.size := file_lt_of_stat hsound hstat
      have hf : fs.files[id]? = some fs.files[id] := by simp [hid]
      split at hcopy
      · cases hcopy
      · next d n hslot =>
          refine ⟨id, fs.files[id], d, n, hstat, hf, hslot, ?_⟩
          have hentry := (slot_of_findSlot hslot).2.2
          have hchild : fs.at? (d ++ [n]) = (fs.at? d).bind (·.child? n) :=
            Node.at?_concat _ _ _
          rw [hchild] at hentry ⊢
          rcases hentry with hnone | ⟨old, hold⟩
          · left
            simp only [hnone, hf] at hcopy
            cases hcopy
            exact ⟨hnone, by simp⟩
          · right
            refine ⟨old, hold, ?_⟩
            simp only [hold, hf] at hcopy
            cases hcopy
            by_cases heq : old = id
            -- The file that is read has been emptied already.
            · subst heq
              simp [setFile, hid]
            · have hne : (fs.files.setIfInBounds old ⟨.empty, fs.files[id].mode⟩)[id]? =
                  some fs.files[id] := by
                rw [Array.getElem?_setIfInBounds_ne heq, hf]
              simp [setFile, heq, hne]
  · cases hcopy

/-! ## What the paths hold afterwards -/

section After

variable {fs : FileSystem} {source target : Path} {id : Nat} {f : File} {d : Location} {n : Name}

/-- After the copy to a new file both paths hold what the source held, and they led to no common
file before. -/
theorem readFile_insertFile (hsound : fs.Sound) (hstat : fs.stat source = .ok (.file id))
    (hf : fs.files[id]? = some f) (hslot : fs.findSlot target = .ok (d, n))
    (hfree : fs.at? (d ++ [n]) = none) :
    (fs.insertFile d n f).readFile target = .ok f.bytes ∧
      (fs.insertFile d n f).readFile source = .ok f.bytes ∧ ¬ fs.SameFile source target := by
  obtain ⟨⟨es, hes⟩, -, -⟩ := slot_of_findSlot hslot
  have hgrow : fs.GrowsTo (fs.insertFile d n f) := growsTo_insertFile hes hfree f
  have hnew : (fs.insertFile d n f).at? (d ++ [n]) = some (.file fs.files.size) :=
    at?_insert_self hes _
  have htarget : (fs.insertFile d n f).stat target = .ok (.file fs.files.size) :=
    stat_eq_ok_iff.mpr ⟨d ++ [n], find_of_findSlot hgrow hslot hnew, hnew⟩
  refine ⟨?_, ?_, ?_⟩
  · exact readFile_eq_ok_iff.mpr ⟨fs.files.size, f, htarget, by simp [insertFile], rfl⟩
  · exact readFile_eq_ok_iff.mpr
      ⟨id, f, stat_file_of_growsTo hgrow hstat, contents_insertFile fs d n f hf, rfl⟩
  -- A file that both paths led to would still be there, and be the new one.
  · rintro ⟨same, -, hsame⟩
    have hlt : same < fs.files.size := file_lt_of_stat hsound hsame
    have hstays := stat_file_of_growsTo hgrow hsame
    rw [htarget] at hstays
    cases hstays
    omega

/-- A path leads to the file in its slot. -/
theorem stat_of_findSlot {old : Nat} (hslot : fs.findSlot target = .ok (d, n))
    (hold : fs.at? (d ++ [n]) = some (.file old)) : fs.stat target = .ok (.file old) :=
  stat_eq_ok_iff.mpr ⟨d ++ [n], find_of_findSlot (GrowsTo.refl fs) hslot hold, hold⟩

/-- After a file has been written it holds what has been written. -/
theorem readFile_setFile (hsound : fs.Sound) (hstat : fs.stat target = .ok (.file id)) (f : File) :
    (fs.setFile id f).readFile target = .ok f.bytes := by
  have hid : id < fs.files.size := file_lt_of_stat hsound hstat
  refine readFile_eq_ok_iff.mpr ⟨id, f, (stat_setFile ..).trans hstat, ?_, rfl⟩
  simp [setFile, hid]

/-- After a file has been written any other file holds what it held. -/
theorem readFile_setFile_of_ne {old : Nat} (hstat : fs.stat source = .ok (.file id))
    (hne : old ≠ id) (f : File) : (fs.setFile old f).readFile source = fs.readFile source := by
  have hother : (fs.setFile old f).files[id]? = fs.files[id]? :=
    Array.getElem?_setIfInBounds_ne hne
  simp only [readFile, stat_setFile, hstat, hother]

theorem sameFile_iff {old : Nat} (hsource : fs.stat source = .ok (.file id))
    (htarget : fs.stat target = .ok (.file old)) : fs.SameFile source target ↔ old = id := by
  constructor
  · rintro ⟨same, hsame, hsame'⟩
    rw [hsource] at hsame
    rw [htarget] at hsame'
    cases hsame
    cases hsame'
    rfl
  · rintro rfl
    exact ⟨old, hsource, htarget⟩

theorem sound_copyFile {fs' : FileSystem} (hsound : fs.Sound)
    (hcopy : fs.copyFile source target = .ok fs') : fs'.Sound := by
  obtain ⟨id, f, d, n, -, -, hslot, ⟨-, rfl⟩ | ⟨old, -, rfl⟩⟩ := of_copyFile hsound hcopy
  · exact hsound.insertFile d (slot_of_findSlot hslot).2.1 f
  · exact hsound.setFile old _

end After

end FileSystem

namespace FileCommand

open LuaShell.FileSystem

/-- A copy of anything but a directory that succeeds delivers the bytes of the source and leaves
them where they were exactly if there are none or the paths do not lead to one file.  If they do,
the file is empty afterwards. -/
theorem copy_file_keeps_bytes {fs fs' : FileSystem} (hsound : fs.Sound) {source target : Path}
    (hfile : fs.isDirectory source = false)
    (hcopy : copy fs source target = (.ok (), fs')) :
    fs'.Sound ∧ ∃ bytes, fs.readFile source = .ok bytes ∧
      ((fs'.readFile target = .ok bytes ∧ fs'.readFile source = .ok bytes) ↔
        (bytes = .empty ∨ ¬ fs.SameFile source target)) ∧
      (fs.SameFile source target →
        fs'.readFile target = .ok .empty ∧ fs'.readFile source = .ok .empty) := by
  have hsingle : fs.copyFile source target = .ok fs' := by
    simp only [copy, hfile, Bool.false_eq_true, if_false] at hcopy
    cases hmade : fs.copyFile source target with
    | error e => simp [single, hmade] at hcopy
    | ok made => simpa [single, hmade] using hcopy
  refine ⟨sound_copyFile hsound hsingle, ?_⟩
  obtain ⟨id, f, d, n, hstat, hf, hslot, hcase⟩ := of_copyFile hsound hsingle
  have hbefore : fs.readFile source = .ok f.bytes :=
    readFile_eq_ok_iff.mpr ⟨id, f, hstat, hf, rfl⟩
  refine ⟨f.bytes, hbefore, ?_⟩
  rcases hcase with ⟨hfree, rfl⟩ | ⟨old, hold, rfl⟩
  -- A new file: no path led to it before.
  · obtain ⟨htarget, hsource, hother⟩ := readFile_insertFile hsound hstat hf hslot hfree
    exact ⟨iff_of_true ⟨htarget, hsource⟩ (Or.inr hother), fun hsame => absurd hsame hother⟩
  -- A file that was there: it is the source itself, or another one.
  · have htarget : fs.stat target = .ok (.file old) := stat_of_findSlot hslot hold
    rw [sameFile_iff hstat htarget]
    by_cases heq : old = id
    · subst heq
      rw [if_pos rfl]
      have hempty := readFile_setFile hsound htarget ⟨.empty, f.mode⟩
      have hempty' := readFile_setFile hsound hstat ⟨.empty, f.mode⟩
      refine ⟨?_, fun _ => ⟨hempty, hempty'⟩⟩
      rw [hempty, hempty']
      simp [eq_comm]
    · rw [if_neg heq]
      have hwritten := readFile_setFile hsound htarget f
      have hkept := (readFile_setFile_of_ne hstat heq f).trans hbefore
      exact ⟨iff_of_true ⟨hwritten, hkept⟩ (Or.inr heq), fun h => absurd h heq⟩

/-- A copy through a link that leads nowhere yet, from the first of two names of a file. -/
theorem copy_file_keeps_bytes_through_link :
    let data : File := ⟨⟨#[1, 2]⟩, File.defaultMode⟩
    let names : List (Name × Node) :=
      [(Text.toBytes "a", .file 0), (Text.toBytes "b", .file 0),
        (Text.toBytes "l", .link (Path.ofString "./c"))]
    let fs : FileSystem := ⟨.dir names, #[data], none⟩
    let fs' : FileSystem :=
      ⟨.dir (names ++ [(Text.toBytes "c", .file 1)]), #[data, data], none⟩
    let source := Path.ofString "/a"
    let target := Path.ofString "/l"
    fs.Sound ∧ fs.isDirectory source = false ∧ copy fs source target = (.ok (), fs') ∧
      fs'.Sound ∧ ∃ bytes, fs.readFile source = .ok bytes ∧
        ((fs'.readFile target = .ok bytes ∧ fs'.readFile source = .ok bytes) ↔
          (bytes = .empty ∨ ¬ fs.SameFile source target)) ∧
        (fs.SameFile source target →
          fs'.readFile target = .ok .empty ∧ fs'.readFile source = .ok .empty) := by
  intro data names fs fs' source target
  have hsound : fs.Sound := by decide
  have hfile : fs.isDirectory source = false := by cbv
  have hslot : fs.findSlot target = .ok ([], Text.toBytes "c") := by
    refine findSlot_eq_ok_iff.mpr ⟨by decide, [], by decide, ?_⟩
    refine writeSlot_eq_ok_iff.mpr ⟨[], 40, Text.toBytes "l", by cbv, by cbv, by decide, ?_⟩
    refine Or.inr ⟨Path.ofString "./c", 39, by cbv, rfl, ?_⟩
    exact writeSlot_eq_ok_iff.mpr ⟨[], 39, Text.toBytes "c", by cbv, by cbv, by decide,
      Or.inl ⟨rfl, rfl, Or.inl (by cbv)⟩⟩
  have hstat : fs.stat source = .ok (.file 0) := by cbv
  have hcopy : copy fs source target = (.ok (), fs') := by
    simp only [copy, hfile, copyFile, hstat, hslot]
    cbv
  exact ⟨hsound, hfile, hcopy, copy_file_keeps_bytes hsound hfile hcopy⟩

/-- A file that is copied onto itself is lost, and the copy is not refused. -/
theorem copy_file_onto_itself_empties :
    let fs : FileSystem :=
      ⟨.dir [(Text.toBytes "a", .file 0)], #[⟨⟨#[1, 2]⟩, File.defaultMode⟩], none⟩
    let p := Path.ofString "/a"
    fs.isDirectory p = false ∧ (copy fs p p).1 = .ok () ∧
      fs.readFile p = .ok ⟨#[1, 2]⟩ ∧ (copy fs p p).2.readFile p = .ok .empty := by
  intro fs p
  have hfile : fs.isDirectory p = false := by cbv
  have hbefore : fs.readFile p = .ok ⟨#[1, 2]⟩ := by cbv
  have hslot : fs.findSlot p = .ok ([], Text.toBytes "a") :=
    findSlot_eq_ok_iff.mpr ⟨by decide, [], by decide,
      writeSlot_eq_ok_iff.mpr ⟨[], 40, Text.toBytes "a", by cbv, by cbv, by decide,
        Or.inl ⟨rfl, rfl, Or.inr ⟨0, by cbv⟩⟩⟩⟩
  have hstat : fs.stat p = .ok (.file 0) := by cbv
  have hcopy : copy fs p p = (.ok (), fs.setFile 0 ⟨.empty, File.defaultMode⟩) := by
    simp only [copy, hfile, copyFile, hstat, hslot]
    cbv
  rw [hcopy]
  have hafter : (fs.setFile 0 ⟨.empty, File.defaultMode⟩).readFile p = .ok .empty := by cbv
  exact ⟨hfile, rfl, hbefore, hafter⟩

end FileCommand

end LuaShell
