import LuaShell.Proofs.Copy.IntoItself
import LuaShell.Proofs.FileSystem.Spelled

/-!
# Copies over what is there

In a file system without links a tree is copied to a place where anything may stand already.
A copy that gets to its end has a file for every file of the source, and a directory for every
directory but one: if a file stands where an empty directory should come, nothing asks whether
it is a directory, and nothing is ever put into it (`copy_over_existing`).  The files have the
bytes of the source unless one that is overwritten is a file of the source, or of another place
that is written to, under a second name or because the copy lands in the source
(`FileSystem.Unshared`).

What every step preserves is `Merging`: all that is new stands where something is written, and
what has been copied is there.  A new directory and the copy of one file preserve it, and so do
the calls for directories, by induction on the levels.
-/

namespace LuaShell

open LuaShell.Path (IsName)

namespace FileSystem

/-! ## What is written -/

/-- The names below the target at which a copy may write a file: those of the files of the source,
and those of files that land in the source and are copied once more. -/
inductive Writes (fs : FileSystem) (s t : Location) : List Name → Prop
  | held {r : List Name} {id : Nat} (hat : fs.at? (s ++ r) = some (.file id)) : Writes fs s t r
  | landed {r r' : List Name} (hr : Writes fs s t r) (hlands : t ++ r = s ++ r') : Writes fs s t r'

/-- No file that may be overwritten is a file of the source or stands at another place that is
written to. -/
structure Unshared (fs : FileSystem) (s t : Location) : Prop where
  source : ∀ {r r' id}, Writes fs s t r → fs.at? (t ++ r) = some (.file id) →
    fs.at? (s ++ r') ≠ some (.file id)
  target : ∀ {r r' id}, Writes fs s t r → Writes fs s t r' →
    fs.at? (t ++ r) = some (.file id) → fs.at? (t ++ r') = some (.file id) → r = r'

/-- Files of one name each are unshared if none of the source lands in the source. -/
theorem unshared_of_single {fs : FileSystem} {s t : Location}
    (hsingle : ∀ l l' id, fs.at? l = some (.file id) → fs.at? l' = some (.file id) → l = l')
    (hlands : ∀ r r' id, fs.at? (s ++ r) = some (.file id) → t ++ r ≠ s ++ r') :
    fs.Unshared s t := by
  have hheld : ∀ {r}, Writes fs s t r → ∃ id, fs.at? (s ++ r) = some (.file id) := by
    intro r hr
    induction hr with
    | held hat => exact ⟨_, hat⟩
    | landed _ hland ih =>
        obtain ⟨id, hat⟩ := ih
        exact absurd hland (hlands _ _ id hat)
  refine ⟨fun {r r' id} hr hat hat' => ?_, fun {r r' id} _ _ hat hat' => ?_⟩
  · obtain ⟨id', hfile⟩ := hheld hr
    exact hlands r r' id' hfile (hsingle _ _ id hat hat')
  · exact List.append_cancel_left (hsingle _ _ id hat hat')

/-! ## What has been made -/

/-- The file at `l` is a new one with this one name, and the source has a file there to copy. -/
structure NewFile (before : FileSystem) (s t : Location) (fs : FileSystem) (l : Location)
    (id : Nat) : Prop where
  fresh : before.files.size ≤ id
  unique : ∀ l', fs.at? l' = some (.file id) → l' = l
  origin : ∃ r, l = t ++ r ∧ Writes before s t r ∧ ∃ id', fs.at? (s ++ r) = some (.file id')

/-- What stood at some names below the source is there at the same names below the target. -/
structure Delivered (before : FileSystem) (source target : Path) (r : List Name)
    (fs : FileSystem) : Prop where
  there : (before.at? (source.location ++ r)).isSome → fs.pathExists (target.down r) = true
  file : ∀ {id f}, before.at? (source.location ++ r) = some (.file id) →
    before.files[id]? = some f → ∃ id', fs.stat (target.down r) = .ok (.file id') ∧
      (before.Unshared source.location target.location → fs.files[id']? = some f)

/-- What holds while a tree is copied: nothing has gone, new files are where they should be, the
files of the source are as they were, and what is done has been delivered. -/
structure Merging (before : FileSystem) (source target : Path) (done : List Name → Prop)
    (fs : FileSystem) : Prop where
  grows : before.GrowsTo fs
  sound : fs.Sound
  size_le : before.files.size ≤ fs.files.size
  files : ∀ {l id}, fs.at? l = some (.file id) → before.at? l = some (.file id) ∨
    NewFile before source.location target.location fs l id
  kept : before.Unshared source.location target.location →
    ∀ {r id f}, before.at? (source.location ++ r) = some (.file id) →
      before.files[id]? = some f → fs.files[id]? = some f
  delivered : ∀ r, done r → Delivered before source target r fs

/-- What a tree without links has to be for its copy to be looked at. -/
structure Mergeable (before : FileSystem) (source target : Path) : Prop where
  sound : before.Sound
  linkFree : before.root.LinkFree
  source_isAbsolute : source.isAbsolute = true
  target_isAbsolute : target.isAbsolute = true
  outside : ¬ source.location <+: target.location

section Merging

variable {before fs fs' : FileSystem} {source target p : Path} {done : List Name → Prop}
  {e r : List Name} {id old : Nat} {f : File}

/-! ## While the files grow -/

namespace Merging

/-- A copy begins with nothing done. -/
theorem start (hsound : before.Sound) : Merging before source target (fun _ => False) before :=
  ⟨GrowsTo.refl before, hsound, Nat.le_refl _, fun hat => Or.inl hat,
    fun _ _ _ _ _ hf => hf, fun _ hdone => hdone.elim⟩

theorem mono {done' : List Name → Prop} (h : Merging before source target done fs)
    (hdone : ∀ r, done' r → Delivered before source target r fs) :
    Merging before source target done' fs :=
  { h with delivered := hdone }

/-- What has been delivered stays so when all contents are kept. -/
theorem delivered_grow (hgrow : fs.GrowsTo fs')
    (hcontents : ∀ (id : Nat) (f : File), fs.files[id]? = some f → fs'.files[id]? = some f)
    (h : Delivered before source target r fs) : Delivered before source target r fs' := by
  refine ⟨fun hsome => pathExists_of_growsTo hgrow (h.there hsome), fun hat hf => ?_⟩
  obtain ⟨id', hstat, hsame⟩ := h.file hat hf
  exact ⟨id', stat_file_of_growsTo hgrow hstat, fun hunshared => hcontents id' _ (hsame hunshared)⟩

/-- New entries with no change of contents keep what holds, if the new files are as they should
be. -/
theorem grow (h : Merging before source target done fs) (hgrow : fs.GrowsTo fs')
    (hsound : fs'.Sound)
    (hcontents : ∀ (id : Nat) (f : File), fs.files[id]? = some f → fs'.files[id]? = some f)
    (hnew : ∀ {l id}, fs'.at? l = some (.file id) → fs.at? l = some (.file id) ∨
      NewFile before source.location target.location fs' l id) :
    Merging before source target done fs' := by
  have hstays : ∀ {l id}, fs.at? l = some (.file id) →
      NewFile before source.location target.location fs l id →
      NewFile before source.location target.location fs' l id := by
    intro l id hat hfile
    obtain ⟨r, hl, hwrites, id', hat'⟩ := hfile.origin
    refine ⟨hfile.fresh, fun l' hl' => ?_, r, hl, hwrites, id', hgrow.root.file hat'⟩
    rcases hnew hl' with hold | hnew'
    · exact hfile.unique l' hold
    · exact (hnew'.unique l (hgrow.root.file hat)).symm
  refine ⟨h.grows.trans hgrow, hsound, h.size_le.trans (size_le_of_contents hcontents),
    fun hat => ?_, fun hunshared r id f hat hf => hcontents id f (h.kept hunshared hat hf),
    fun r hdone => delivered_grow hgrow hcontents (h.delivered r hdone)⟩
  rcases hnew hat with hold | hfile
  · exact (h.files hold).imp_right (hstays hold)
  · exact Or.inr hfile

/-- A new directory holds no file. -/
theorem makeDirectory (h : Merging before source target done fs)
    (hmade : fs.makeDirectory p = .ok fs') : Merging before source target done fs' := by
  have hgrow := growsTo_makeDirectory hmade
  obtain ⟨d, n, es, hdir, -, hn, rfl, -⟩ := of_makeDirectory hmade
  refine h.grow hgrow (h.sound.insert d hn (.emptyDir _)) (fun _ _ hf => hf) fun hat => ?_
  rcases file_of_insert hdir rfl hat with ⟨-, hfile⟩ | hold
  · cases hfile
  · exact Or.inl hold

/-- A new file stands where one of the source should come. -/
theorem insertFile (h : Merging before source target done fs) {d : Location} {n : Name}
    {es : List (Name × Node)} (hdir : fs.at? d = some (.dir es)) (hfree : fs.at? (d ++ [n]) = none)
    (hn : IsName n) (hplace : d ++ [n] = target.location ++ e)
    (hwrites : Writes before source.location target.location e)
    (hat : fs.at? (source.location ++ e) = some (.file id)) (f : File) :
    Merging before source target done (fs.insertFile d n f) := by
  have hgrow := growsTo_insertFile hdir hfree f
  have hcases : ∀ {l id}, (fs.insertFile d n f).at? l = some (.file id) →
      (l = d ++ [n] ∧ id = fs.files.size) ∨ fs.at? l = some (.file id) := fun {l id} hl =>
    (file_of_insert (v := .file fs.files.size) hdir rfl hl).imp_left fun ⟨hl, hid⟩ =>
      ⟨hl, (Node.file.inj hid).symm⟩
  refine h.grow hgrow (h.sound.insertFile d hn f) (fun _ _ => contents_insertFile fs d n f)
    fun {l id'} hl => ?_
  rcases hcases hl with ⟨rfl, rfl⟩ | hold
  · refine Or.inr ⟨h.size_le, fun l' hl' => ?_, e, hplace, hwrites, id, hgrow.root.file hat⟩
    rcases hcases hl' with ⟨rfl, -⟩ | hold
    · rfl
    · exact absurd (h.sound.file_lt hold) (Nat.lt_irrefl _)
  · exact Or.inl hold

/-! ## Which file is which -/

/-- The source holds no file that the copy does not write somewhere. -/
theorem writes (h : Merging before source target done fs)
    (hat : fs.at? (source.location ++ e) = some (.file id)) :
    Writes before source.location target.location e := by
  rcases h.files hat with hold | ⟨-, -, r, hplace, hwrites, -⟩
  · exact .held hold
  · exact hwrites.landed hplace.symm

/-- A file that is overwritten is not the one that is copied. -/
theorem ne_copied (hmergeable : Mergeable before source target)
    (h : Merging before source target done fs)
    (hunshared : before.Unshared source.location target.location)
    (hat : fs.at? (source.location ++ e) = some (.file id))
    (hold : fs.at? (target.location ++ e) = some (.file old)) : old ≠ id := by
  rintro rfl
  rcases h.files hold with hbefore | hnew
  · rcases h.files hat with hbefore' | hnew'
    · exact hunshared.source (h.writes hat) hbefore hbefore'
    · exact absurd (hmergeable.sound.file_lt hbefore) (Nat.not_lt.mpr hnew'.fresh)
  · have hsame := hnew.unique _ hat
    have hplaces : source.location = target.location := List.append_cancel_right hsame
    exact hmergeable.outside (hplaces ▸ List.prefix_rfl)

/-- A file that is overwritten was no file of the source. -/
theorem ne_source (hmergeable : Mergeable before source target)
    (h : Merging before source target done fs)
    (hunshared : before.Unshared source.location target.location)
    (hwrites : Writes before source.location target.location e)
    (hold : fs.at? (target.location ++ e) = some (.file old))
    (hat : before.at? (source.location ++ r) = some (.file id)) : old ≠ id := by
  rintro rfl
  rcases h.files hold with hbefore | hnew
  · exact hunshared.source hwrites hbefore hat
  · exact absurd (hmergeable.sound.file_lt hat) (Nat.not_lt.mpr hnew.fresh)

/-- Files at different places that are written to are different. -/
theorem written_inj (hmergeable : Mergeable before source target)
    (h : Merging before source target done fs)
    (hunshared : before.Unshared source.location target.location)
    (hwrites : Writes before source.location target.location e)
    (hwrites' : Writes before source.location target.location r)
    (hat : fs.at? (target.location ++ e) = some (.file id))
    (hat' : fs.at? (target.location ++ r) = some (.file id)) : r = e := by
  rcases h.files hat with hbefore | hnew
  · rcases h.files hat' with hbefore' | hnew'
    · exact hunshared.target hwrites' hwrites hbefore' hbefore
    · exact absurd (hmergeable.sound.file_lt hbefore) (Nat.not_lt.mpr hnew'.fresh)
  · exact List.append_cancel_left (hnew.unique _ hat')

/-! ## One file -/

/-- Paths lead where they say. -/
theorem at?_of_find (hmergeable : Mergeable before source target)
    (h : Merging before source target done fs) (hp : p.isAbsolute = true)
    (hnames : ∀ n ∈ e, IsName n) {l : Location} (hfind : fs.find true (p.down e) = .ok l) :
    l = p.location ++ e := by
  have hplain : fs.Plain (p.down e) := (h.grows.root.linkFree hmergeable.linkFree).plain [] _
  rw [find_of_plain (Path.isAbsolute_down hp e) hplain hfind, Path.location_down _ hnames]

/-- Nothing stood below what is a file now. -/
theorem eq_of_file (h : Merging before source target done fs)
    (hat : fs.at? (source.location ++ e) = some (.file id)) (her : e <+: r)
    (hsome : (before.at? (source.location ++ r)).isSome) : r = e := by
  obtain ⟨q, rfl⟩ := her
  cases q with
  | nil => exact List.append_nil e
  | cons x q =>
      obtain ⟨v, hv⟩ := Option.isSome_iff_exists.mp hsome
      rw [← List.append_assoc] at hv
      obtain ⟨es, hdir⟩ := Node.dir_of_at?_append hv
      obtain ⟨es', hdir'⟩ := h.grows.root.dir hdir
      rw [show fs.at? (source.location ++ e) = _ from hdir'] at hat
      cases hat

/-- A file that has been written delivers what the source holds at its names. -/
theorem delivered_written (h : Merging before source target done fs)
    (hat : fs.at? (source.location ++ e) = some (.file id)) (hf : fs.files[id]? = some f)
    {written : Nat} (hstat : fs'.stat (target.down e) = .ok (.file written))
    (hcontent : before.Unshared source.location target.location →
      fs'.files[written]? = some f) (her : e <+: r) :
    Delivered before source target r fs' := by
  have hexists : fs'.pathExists (target.down e) = true := by
    simp [pathExists, hstat, Except.isOk, Except.toBool]
  refine ⟨fun hsome => ?_, fun {id' f'} hat' hf' => ?_⟩
  · obtain rfl := h.eq_of_file hat her hsome
    exact hexists
  · obtain rfl := h.eq_of_file hat her (by rw [hat']; rfl)
    refine ⟨written, hstat, fun hunshared => ?_⟩
    have hsame : fs.at? (source.location ++ r) = some (.file id') := h.grows.root.file hat'
    rw [hat] at hsame
    cases hsame
    rw [hcontent hunshared, ← hf, h.kept hunshared hat' hf']

/-- A file that is overwritten with what the source holds changes nothing that has been done. -/
theorem setFile (hmergeable : Mergeable before source target)
    (h : Merging before source target done fs)
    (hat : fs.at? (source.location ++ e) = some (.file id)) (hf : fs.files[id]? = some f)
    (hold : fs.at? (target.location ++ e) = some (.file old)) {g : File}
    (hcopied : old ≠ id → g = f) : Merging before source target done (fs.setFile old g) := by
  have hwrites := h.writes hat
  have hlt : old < fs.files.size := h.sound.file_lt hold
  have hother : ∀ {id'}, old ≠ id' → (fs.setFile old g).files[id']? = fs.files[id']? :=
    fun hne => Array.getElem?_setIfInBounds_ne hne
  refine ⟨h.grows.trans (growsTo_setFile fs old g), h.sound.setFile old g, ?_, fun hat' => ?_,
    fun hunshared r id' f' hat' hf' => ?_, fun r hdone => ⟨(h.delivered r hdone).there, ?_⟩⟩
  · simpa [FileSystem.setFile] using h.size_le
  · exact (h.files hat').imp_right fun hnew => ⟨hnew.fresh, hnew.unique, hnew.origin⟩
  · rw [hother (h.ne_source hmergeable hunshared hwrites hold hat')]
    exact h.kept hunshared hat' hf'
  · intro id' f' hat' hf'
    obtain ⟨there, hstat, hsame⟩ := (h.delivered r hdone).file hat' hf'
    refine ⟨there, hstat, fun hunshared => ?_⟩
    by_cases hne : old = there
    -- It is the same file once more, and the source still holds the same.
    · subst hne
      obtain ⟨l, hfind, hl⟩ := stat_eq_ok_iff.mp hstat
      have hnames : ∀ n ∈ r, IsName n := fun n hn =>
        Node.Sound.isName hmergeable.sound (Option.isSome_of_mem hat') n (List.mem_append_right _ hn)
      obtain rfl := h.at?_of_find hmergeable hmergeable.target_isAbsolute hnames hfind
      obtain rfl := h.written_inj hmergeable hunshared hwrites (.held hat') hold hl
      have hkept : fs.at? (source.location ++ r) = some (.file id') := h.grows.root.file hat'
      rw [hat] at hkept
      cases hkept
      rw [hcopied (h.ne_copied hmergeable hunshared hat hold), ← h.kept hunshared hat' hf', hf]
      simp [FileSystem.setFile, hlt]
    · rw [hother hne]
      exact hsame hunshared

/-- The copy of a file delivers it. -/
theorem copyFile (hmergeable : Mergeable before source target)
    (h : Merging before source target done fs) (hnames : ∀ n ∈ e, IsName n)
    (hcopy : fs.copyFile (source.down e) (target.down e) = .ok fs') :
    Merging before source target (fun r => done r ∨ e <+: r) fs' := by
  obtain ⟨id, f, d, n, hstat, hf, hslot, hcase⟩ := of_copyFile h.sound hcopy
  obtain ⟨l, hfind, hat⟩ := stat_eq_ok_iff.mp hstat
  obtain rfl := h.at?_of_find hmergeable hmergeable.source_isAbsolute hnames hfind
  have hfree := h.grows.root.linkFree hmergeable.linkFree
  have hplace : d ++ [n] = target.location ++ e := by
    rw [location_of_findSlot (Path.isAbsolute_down hmergeable.target_isAbsolute e) (hfree.plain [] _)
      hslot, Path.location_down _ hnames]
  obtain ⟨⟨es, hdir⟩, hn, -⟩ := slot_of_findSlot hslot
  rcases hcase with ⟨hnone, rfl⟩ | ⟨old, hold, rfl⟩
  · have hmerging := h.insertFile hdir hnone hn hplace (h.writes hat) hat f
    have hnew : (fs.insertFile d n f).at? (d ++ [n]) = some (.file fs.files.size) :=
      at?_insert_self hdir _
    have hstat' : (fs.insertFile d n f).stat (target.down e) = .ok (.file fs.files.size) :=
      stat_eq_ok_iff.mpr ⟨_, find_of_findSlot (growsTo_insertFile hdir hnone f) hslot hnew, hnew⟩
    refine hmerging.mono fun r hr => hr.elim (hmerging.delivered r) fun her => ?_
    exact h.delivered_written hat hf hstat' (fun _ => by simp [FileSystem.insertFile]) her
  · have hold' := hplace ▸ hold
    have hmerging := h.setFile hmergeable hat hf hold'
      (g := if old = id then ⟨.empty, f.mode⟩ else f) fun hne => if_neg hne
    refine hmerging.mono fun r hr => hr.elim (hmerging.delivered r) fun her => ?_
    have hlt : old < fs.files.size := h.sound.file_lt hold
    refine h.delivered_written hat hf (stat_of_findSlot hslot hold) (fun hunshared => ?_) her
    rw [if_neg (h.ne_copied hmergeable hunshared hat hold')]
    simp [FileSystem.setFile, hlt]

end Merging

/-! ## All calls -/

/-- What the call for a directory of the source has to do. -/
def Merges (before : FileSystem) (source target : Path)
    (copyDirectory : FileSystem → Path → Path → Outcome) (e : List Name) : Prop :=
  ∀ {done fs fs' es}, Merging before source target done fs →
    fs.at? (source.location ++ e) = some (.dir es) →
    copyDirectory fs (source.down e) (target.down e) = (.ok (), fs') →
    Merging before source target (fun r => done r ∨ e <+: r) fs'

/-- The copy of an entry delivers all that stood at and below its name. -/
theorem merging_copyEntry (hmergeable : Mergeable before source target)
    {copyDirectory : FileSystem → Path → Path → Outcome} {n : Name} {node : Node}
    (hcopy : Merges before source target copyDirectory (e ++ [n])) (hnames : ∀ n ∈ e, IsName n)
    (h : Merging before source target done fs) (hn : IsName n)
    (hdir : node.isDir = true → ∃ es, fs.at? (source.location ++ (e ++ [n])) = some (.dir es))
    (hok : copyEntry copyDirectory (source.down e) (target.down e) fs n node = (.ok (), fs')) :
    Merging before source target (fun r => done r ∨ e ++ [n] <+: r) fs' := by
  unfold copyEntry at hok
  rw [← Path.down_concat, ← Path.down_concat] at hok
  split at hok
  · next hnode =>
      obtain ⟨es, hes⟩ := hdir hnode
      exact hcopy h hes hok
  · cases hcopied : fs.copyFile (source.down (e ++ [n])) (target.down (e ++ [n])) with
    | error err => simp [attempt, hcopied] at hok
    | ok made =>
        obtain rfl : made = fs' := by simpa [attempt, hcopied] using hok
        refine h.copyFile hmergeable ?_ hcopied
        rw [List.forall_mem_append]
        exact ⟨hnames, by simpa using hn⟩

/-- The copy of listed entries delivers all that stood at and below their names. -/
theorem merging_copyEntries (hmergeable : Mergeable before source target) {levels : Nat}
    (hcopy : ∀ n, Merges before source target (copyLevels levels) (e ++ [n]))
    (hnames : ∀ n ∈ e, IsName n) (h : Merging before source target done fs)
    {es : List (Name × Node)}
    (hlisted : ∀ n node, (n, node) ∈ es → IsName n ∧
      (node.isDir = true → ∃ es', fs.at? (source.location ++ (e ++ [n])) = some (.dir es')))
    (hok : copyEntries (copyLevels levels) (source.down e) (target.down e) fs es =
      (.ok (), fs')) :
    Merging before source target (fun r => done r ∨ ∃ n ∈ es.map (·.1), e ++ [n] <+: r) fs' := by
  induction es generalizing fs done with
  | nil =>
      cases hok
      exact h.mono fun r hr => h.delivered r (hr.resolve_right (by simp))
  | cons entry rest ih =>
      obtain ⟨n, node⟩ := entry
      obtain ⟨hn, hdir⟩ := hlisted n node (List.mem_cons_self ..)
      rw [copyEntries] at hok
      split at hok
      · next made hfirst =>
          have hmade := merging_copyEntry hmergeable (hcopy n) hnames h hn hdir hfirst
          have hgrow := growsTo_copyEntry levels fs (source.down e) (target.down e) n node
          rw [hfirst] at hgrow
          -- What is a directory is one still when its turn comes.
          have hlisted' : ∀ n' node', (n', node') ∈ rest → IsName n' ∧ (node'.isDir = true →
              ∃ es', made.at? (source.location ++ (e ++ [n'])) = some (.dir es')) := by
            intro n' node' hmem
            obtain ⟨hn', hdir'⟩ := hlisted n' node' (List.mem_cons_of_mem _ hmem)
            refine ⟨hn', fun hnode => ?_⟩
            obtain ⟨es', hes'⟩ := hdir' hnode
            exact hgrow.root.dir hes'
          have hall := ih hmade hlisted' hok
          refine hall.mono fun r hr => hall.delivered r ?_
          simp only [List.map_cons, List.mem_cons, exists_eq_or_imp] at hr
          tauto
      · next hfailed => exact (hfailed fs' hok).elim

/-- With what a call lists delivered, all that stood at and below its directory is. -/
theorem merging_of_entries (h : Merging before source target done fs) {es : List (Name × Node)}
    (hdir : fs.at? (source.location ++ e) = some (.dir es))
    (hexists : fs.pathExists (target.down e) = true) (hgrow : fs.GrowsTo fs')
    (hentries : Merging before source target
      (fun r => done r ∨ ∃ n ∈ es.map (·.1), e ++ [n] <+: r) fs') :
    Merging before source target (fun r => done r ∨ e <+: r) fs' := by
  refine hentries.mono fun r hr => hr.elim (fun hdone => hentries.delivered r (Or.inl hdone)) ?_
  rintro ⟨q, rfl⟩
  cases q with
  | nil =>
      rw [List.append_nil]
      refine ⟨fun _ => pathExists_of_growsTo hgrow hexists, fun hat _ => ?_⟩
      -- What is a directory now was no file.
      have hfile : fs.at? (source.location ++ e) = some (.file _) := h.grows.root.file hat
      rw [hdir] at hfile
      cases hfile
  | cons x q =>
      by_cases hx : x ∈ es.map (·.1)
      · exact hentries.delivered _ (Or.inr ⟨x, hx, q, by simp⟩)
      -- What is not listed did not stand there before.
      · have hnone : before.at? (source.location ++ (e ++ x :: q)) = none := by
          rw [← List.append_assoc]
          exact h.grows.root.none_of_none (Node.at?_of_not_listed hdir hx q)
        refine ⟨fun hsome => ?_, fun hat => ?_⟩
        · simp [hnone] at hsome
        · simp [hnone] at hat

/-- The call for a directory delivers all that stood at and below it. -/
theorem merges_copyLevels (hmergeable : Mergeable before source target) (levels : Nat) :
    ∀ e, Merges before source target (copyLevels levels) e := by
  induction levels with
  | zero =>
      intro e done fs fs' es _ _ hok
      cases hok
  | succ levels ih =>
      intro e done fs fs' es h hdir hok
      have hnames : ∀ n ∈ e, IsName n := fun n hn =>
        Node.Sound.isName h.sound (Option.isSome_of_mem hdir) n (List.mem_append_right _ hn)
      rw [copyLevels] at hok
      split at hok
      · next made hmade =>
          have hmerging : Merging before source target done made := by
            have hkept := makeTarget_preserves (P := Merging before source target done)
              (fun hfs hmade => hfs.makeDirectory hmade) h (target.down e)
            rwa [hmade] at hkept
          have hexists := pathExists_makeTarget
            (Path.isAbsolute_down hmergeable.target_isAbsolute e) hmade
          split at hok
          · cases hok
          · next entries hlist =>
              have hplain : made.Plain (source.down e) :=
                (hmerging.grows.root.linkFree hmergeable.linkFree).plain [] _
              have hdir' := of_readDirectory
                (Path.isAbsolute_down hmergeable.source_isAbsolute e) hplain hlist
              rw [Path.location_down _ hnames] at hdir'
              have hlisted : ∀ n node, (n, node) ∈ entries → IsName n ∧ (node.isDir = true →
                  ∃ es', made.at? (source.location ++ (e ++ [n])) = some (.dir es')) := by
                intro n node hmem
                obtain ⟨hn, hat⟩ := hmerging.sound.of_mem_dir hdir' hmem
                rw [List.append_assoc] at hat
                refine ⟨hn, fun hnode => ?_⟩
                obtain ⟨es', rfl⟩ := Node.isDir_iff.mp hnode
                exact ⟨es', hat⟩
              have hentries := merging_copyEntries hmergeable (fun n => ih (e ++ [n])) hnames
                hmerging hlisted hok
              have hgrow := growsTo_copyEntries levels made (source.down e) (target.down e) entries
              rw [hok] at hgrow
              exact merging_of_entries hmerging hdir' hexists hgrow hentries
      · next hfailed => exact (hfailed fs' hok).elim

/-! ## What a whole copy has delivered -/

/-- What stood at some names below the source stands at the same names below the target. -/
theorem Merging.at?_target (hmergeable : Mergeable before source target)
    (h : Merging before source target (fun _ => True) fs)
    (hat : (before.at? (source.location ++ r)).isSome) :
    ∃ v, fs.find true (target.down r) = .ok (target.location ++ r) ∧
      fs.at? (target.location ++ r) = some v := by
  have hnames : ∀ n ∈ r, IsName n := fun n hn =>
    Node.Sound.isName hmergeable.sound hat n (List.mem_append_right _ hn)
  obtain ⟨l, v, hfind, hv⟩ := pathExists_iff.mp ((h.delivered r trivial).there hat)
  obtain rfl := h.at?_of_find hmergeable hmergeable.target_isAbsolute hnames hfind
  exact ⟨v, hfind, hv⟩

/-- A directory has become one unless it was empty and a file stood there. -/
theorem Merging.isDirectory_iff (hmergeable : Mergeable before source target)
    (h : Merging before source target (fun _ => True) fs) {es : List (Name × Node)}
    (hdir : before.at? (source.location ++ r) = some (.dir es)) :
    fs.isDirectory (target.down r) = true ↔
      ¬ (es = [] ∧ ∃ id, before.at? (target.location ++ r) = some (.file id)) := by
  obtain ⟨v, hfind, hv⟩ := h.at?_target hmergeable (Option.isSome_of_mem hdir)
  have hstat : fs.stat (target.down r) = .ok v := stat_eq_ok_iff.mpr ⟨_, hfind, hv⟩
  constructor
  · rintro hisDir ⟨-, id, hfile⟩
    have hstays : fs.at? (target.location ++ r) = some (.file id) := h.grows.root.file hfile
    rw [hv] at hstays
    cases hstays
    simp [isDirectory, hstat, Node.isDir] at hisDir
  · intro hother
    cases v with
    | dir es' => simp [isDirectory, hstat, Node.isDir]
    | link path => exact absurd hv ((h.grows.root.linkFree hmergeable.linkFree) _ path)
    | file id =>
        exfalso
        rcases h.files hv with hold | hnew
        -- Something below a file would have been delivered.
        · refine hother ⟨List.eq_nil_iff_forall_not_mem.mpr fun entry hmem => ?_, id, hold⟩
          obtain ⟨n, node⟩ := entry
          have hbelow := (hmergeable.sound.of_mem_dir hdir hmem).2
          rw [List.append_assoc] at hbelow
          obtain ⟨w, -, hw⟩ := h.at?_target hmergeable (Option.isSome_of_mem hbelow)
          rw [← List.append_assoc] at hw
          obtain ⟨es', hes'⟩ := Node.dir_of_at?_append hw
          rw [show fs.at? (target.location ++ r) = _ from hes'] at hv
          cases hv
        -- A new file comes from a file.
        · obtain ⟨r', hplace, -, id', hfile⟩ := hnew.origin
          obtain rfl : r = r' := List.append_cancel_left hplace
          obtain ⟨es', hes'⟩ := h.grows.root.dir hdir
          rw [show fs.at? (source.location ++ r) = _ from hes'] at hfile
          cases hfile

end Merging

end FileSystem

namespace FileCommand

open LuaShell.FileSystem

/-- A copy of a directory, in a file system without links, that succeeds.  Every directory of the
source is one still, and there is one at its names below the target unless it was empty and a file
stood there, which is there still.  Every file of the source is there still, and there is a file at
its names below the target; if no file that is overwritten is shared, both hold what it held. -/
theorem copy_over_existing {fs fs' : FileSystem} (hsound : fs.Sound) (hfree : fs.root.LinkFree)
    {source target : Path} (hsource : source.isAbsolute = true)
    (htarget : target.isAbsolute = true) (hdir : fs.isDirectory source = true)
    (hcopy : copy fs source target = (.ok (), fs')) :
    (∀ r es, fs.at? (source.location ++ r) = some (.dir es) →
      (∃ es', fs'.at? (source.location ++ r) = some (.dir es')) ∧
        (fs'.isDirectory (target.down r) = true ↔
          ¬ (es = [] ∧ ∃ id, fs.at? (target.location ++ r) = some (.file id)))) ∧
    (∀ r id, fs.at? (source.location ++ r) = some (.file id) →
      fs'.at? (source.location ++ r) = some (.file id) ∧
        ∃ f id', fs.files[id]? = some f ∧ fs'.stat (target.down r) = .ok (.file id') ∧
          (fs.Unshared source.location target.location →
            fs'.files[id]? = some f ∧ fs'.files[id']? = some f)) := by
  have houtside : ¬ source.location <+: target.location := by
    rw [← copy_refused_iff hsource htarget hdir, hcopy]
    simp
  have hmergeable : Mergeable fs source target := ⟨hsound, hfree, hsource, htarget, houtside⟩
  have htree : fs.copyTree source target = (.ok (), fs') := by
    rw [copy_of_outside hsource htarget hdir houtside] at hcopy
    rcases hcopied : fs.copyTree source target with ⟨answer, after⟩
    cases answer with
    | ok => simpa [several, hcopied] using hcopy
    | error e => simp [several, hcopied] at hcopy
  obtain ⟨l, es, hfind, hes⟩ := isDirectory_iff.mp hdir
  obtain rfl := find_of_plain hsource (hfree.plain [] _) hfind
  have hmerging : Merging fs source target (fun _ => True) fs' := by
    have hall := merges_copyLevels hmergeable _ [] (.start hsound)
      (by rwa [List.append_nil]) htree
    exact hall.mono fun r _ => hall.delivered r (Or.inr List.nil_prefix)
  refine ⟨fun r es hes => ⟨hmerging.grows.root.dir hes, hmerging.isDirectory_iff hmergeable hes⟩,
    fun r id hat => ⟨hmerging.grows.root.file hat, ?_⟩⟩
  have hid : id < fs.files.size := hsound.file_lt hat
  have hf : fs.files[id]? = some fs.files[id] := by simp [hid]
  obtain ⟨id', hstat, hcontent⟩ := (hmerging.delivered r trivial).file hat hf
  exact ⟨fs.files[id], id', hf, hstat, fun hunshared =>
    ⟨hmerging.kept hunshared hat hf, hcontent hunshared⟩⟩

/-- A copy to the directory above, where one file is overwritten, one is new, and one stands where
an empty directory should come. -/
theorem copy_over_directory_above :
    let b := Text.toBytes "b"
    let f := Text.toBytes "f"
    let g := Text.toBytes "g"
    let e := Text.toBytes "e"
    let data : File := ⟨⟨#[1, 2]⟩, File.defaultMode⟩
    let more : File := ⟨⟨#[3]⟩, File.defaultMode⟩
    let inner : List (Name × Node) := [(f, .file 0), (g, .file 1), (e, .dir [])]
    let fs : FileSystem :=
      ⟨.dir [(b, .dir inner), (f, .file 2), (e, .file 3)], #[data, more, more, more], none⟩
    let fs' : FileSystem :=
      ⟨.dir [(b, .dir inner), (f, .file 2), (e, .file 3), (g, .file 4)],
        #[data, more, data, more, more], none⟩
    let source := Path.ofString "/b"
    let target := Path.ofString "/"
    fs.Sound ∧ fs.root.LinkFree ∧ source.isAbsolute = true ∧ target.isAbsolute = true ∧
      fs.isDirectory source = true ∧ copy fs source target = (.ok (), fs') ∧
      fs.Unshared source.location target.location ∧ fs'.isDirectory target = true ∧
      fs'.isDirectory (target.down [e]) = false ∧
      ∃ id id', fs'.stat (target.down [f]) = .ok (.file id) ∧ fs'.files[id]? = some data ∧
        fs'.stat (target.down [g]) = .ok (.file id') ∧ fs'.files[id']? = some more := by
  intro b f g e data more inner fs fs' source target
  have hsound : fs.Sound := by decide
  have hfree : fs.root.LinkFree := by decide
  have hlocation : source.location = [b] := by decide
  have hlocation' : target.location = [] := by decide
  have hunshared : fs.Unshared source.location target.location := by
    rw [hlocation, hlocation']
    have hsingle : ∀ p ∈ fs.root.files, ∀ q ∈ fs.root.files, p.2 = q.2 → p.1 = q.1 := by decide
    have haway : ∀ p ∈ fs.root.files, p.1.tail.head? ≠ some b := by decide
    refine unshared_of_single (fun l l' id hl hl' => ?_) fun r r' id hr hlands => ?_
    · exact hsingle _ (Node.mem_files_iff.mpr hl) _ (Node.mem_files_iff.mpr hl') rfl
    · refine haway _ (Node.mem_files_iff.mpr hr) ?_
      rw [List.singleton_append, List.tail_cons, show r = b :: r' from hlands, List.head?_cons]
  have hcopied : fs.copyFile (source.push f) (target.push f) = .ok (fs.setFile 2 data) := by
    have hspelled : Path.Spellable ([] ++ [f]) := by decide
    have hslot : fs.findSlot (target.push f) = .ok ([], f) :=
      findSlot_ofNames hspelled rfl (Or.inr ⟨2, rfl⟩)
    have hstat : fs.stat (source.push f) = .ok (.file 0) := by cbv
    simp only [copyFile, hstat, hslot]
    cbv
  have hnew : (fs.setFile 2 data).copyFile (source.push g) (target.push g) = .ok fs' := by
    have hspelled : Path.Spellable ([] ++ [g]) := by decide
    have hslot : (fs.setFile 2 data).findSlot (target.push g) = .ok ([], g) :=
      findSlot_ofNames hspelled rfl (Or.inl rfl)
    have hstat : (fs.setFile 2 data).stat (source.push g) = .ok (.file 1) := by cbv
    simp only [copyFile, hstat, hslot]
    cbv
  have hdir : fs.isDirectory source = true := by cbv
  have hcopy : copy fs source target = (.ok (), fs') := by
    have hstarts : target.normalize.startsWith source.normalize = false := by decide
    have hmake : fs.makeTarget target = (.ok (), fs) := by cbv
    have hlist : fs.readDirectory source = .ok inner := by cbv
    have hmake' : fs'.makeTarget (target.push e) = (.ok (), fs') := by cbv
    have hlist' : fs'.readDirectory (source.push e) = .ok [] := by cbv
    have hempty : copyLevels Path.maxLength fs' (source.push e) (target.push e) = (.ok (), fs') := by
      rw [show Path.maxLength = 4095 + 1 from rfl, copyLevels]
      simp only [hmake', hlist', copyEntries]
    simp only [copy, hdir, hstarts, copyTree, copyLevels, hmake, hlist, inner, copyEntries, copyEntry,
      Node.isDir, hcopied, hnew, hempty, attempt, several, if_true, Bool.false_eq_true, if_false]
  obtain ⟨hdirs, hfiles⟩ := copy_over_existing hsound hfree (by decide) (by decide) hdir hcopy
  rw [hlocation, hlocation'] at hdirs hfiles
  obtain ⟨-, hroot⟩ := hdirs [] inner (by cbv)
  obtain ⟨-, hexcept⟩ := hdirs [e] [] (by cbv)
  obtain ⟨-, old, id, hold, hstat, hover⟩ := hfiles [f] 0 (by cbv)
  obtain ⟨-, old', id', hold', hstat', hplain⟩ := hfiles [g] 1 (by cbv)
  obtain rfl : data = old := Option.some.inj hold
  obtain rfl : more = old' := Option.some.inj hold'
  rw [hlocation, hlocation'] at hunshared
  refine ⟨hsound, hfree, by decide, by decide, hdir, hcopy, ?_, hroot.mpr (by simp [inner]), ?_,
    id, id', hstat, (hover hunshared).2, hstat', (hplain hunshared).2⟩
  · rwa [hlocation, hlocation']
  · exact Bool.eq_false_iff.mpr fun hisDir => hexcept.mp hisDir ⟨rfl, 3, by cbv⟩

/-- An empty directory that is copied onto a file leaves the file, and the copy is not refused. -/
theorem copy_empty_directory_onto_file :
    let d := Text.toBytes "d"
    let f := Text.toBytes "f"
    let fs : FileSystem :=
      ⟨.dir [(d, .dir []), (f, .file 0)], #[⟨⟨#[1]⟩, File.defaultMode⟩], none⟩
    let source := Path.ofString "/d"
    let target := Path.ofString "/f"
    fs.root.LinkFree ∧ fs.isDirectory source = true ∧ copy fs source target = (.ok (), fs) ∧
      fs.isDirectory target = false := by
  intro d f fs source target
  have hfree : fs.root.LinkFree := by decide
  have hcopy : copy fs source target = (.ok (), fs) := by cbv
  exact ⟨hfree, by cbv, hcopy, by cbv⟩

end FileCommand

end LuaShell
