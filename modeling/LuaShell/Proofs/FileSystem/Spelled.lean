import LuaShell.FileSystem.Tree
import LuaShell.Proofs.FileSystem.Folding
import LuaShell.Proofs.FileSystem.PushedName

/-!
# Entries by the names that lead to them

The names of an entry, written down as a path, lead to it, unless the system refuses such a
path for its length (`find_ofNames`).  Where all that stands on the way to a free place is
directories, a new entry can be put there (`makeDirectory_ofNames`, `findSlot_ofNames`), and
directories can be made all the way down to it: then they are what is new, and nothing else
(`makeDirectories_ofNames`).
-/

namespace LuaShell

namespace Path

theorem length_le_unparts {names : List Name} (hne : ∀ n ∈ names, n ≠ []) :
    names.length ≤ (unparts names).length := by
  induction names with
  | nil => exact Nat.le_refl _
  | cons n ns ih =>
      have hn : 0 < n.length := List.length_pos_iff.mpr (hne n (List.mem_cons_self ..))
      have hrest := ih fun m hm => hne m (List.mem_cons_of_mem _ hm)
      by_cases hnil : ns = []
      · rw [hnil]
        exact hn
      · rw [unparts_cons hnil]
        simp only [List.length_cons, List.length_append]
        omega

/-- Names that a path can spell without being refused. -/
structure Spellable (names : List Name) : Prop where
  isName : ∀ n ∈ names, IsName n
  short : ∀ n ∈ names, n.length ≤ maxName
  accepted : (ofNames names).refusal? = none

instance (names : List Name) : Decidable (Spellable names) :=
  decidable_of_iff ((∀ n ∈ names, IsName n) ∧ (∀ n ∈ names, n.length ≤ maxName) ∧
    (ofNames names).refusal? = none) ⟨fun ⟨h₁, h₂, h₃⟩ => ⟨h₁, h₂, h₃⟩,
      fun ⟨h₁, h₂, h₃⟩ => ⟨h₁, h₂, h₃⟩⟩

namespace Spellable

variable {names front : List Name}

theorem of_prefix (h : Spellable names) (hfront : front <+: names) : Spellable front := by
  refine ⟨fun n hn => h.isName n (hfront.subset hn), fun n hn => h.short n (hfront.subset hn), ?_⟩
  have hbytes : (ofNames front).bytes <+: (ofNames names).bytes :=
    List.cons_prefix_cons.mpr ⟨rfl, unparts_isPrefix hfront⟩
  obtain ⟨hzero, -, hlength⟩ := refusal?_eq_none_iff.mp h.accepted
  exact refusal?_eq_none_iff.mpr ⟨fun h => hzero (hbytes.subset h), by simp [ofNames],
    hbytes.length_le.trans_lt hlength⟩

theorem name (h : Spellable names) : ∀ n ∈ names, IsName n ∧ n.length ≤ maxName :=
  fun n hn => ⟨h.isName n hn, h.short n hn⟩

/-- A path has more bytes than names. -/
theorem length_lt (h : Spellable names) : names.length < maxLength := by
  have hlength := (refusal?_eq_none_iff.mp h.accepted).2.2
  have hnames := length_le_unparts fun n hn => (h.isName n hn).ne_nil
  simp only [ofNames, List.length_cons] at hlength
  omega

end Spellable

end Path

namespace FileSystem

open LuaShell.Path (dot IsName ofNames Spellable)

variable {fs : FileSystem} {l above : Location} {n : Name} {es : List (Name × Node)}

/-! ## What stands there -/

/-- The names of an entry that is no link lead to it. -/
theorem find_ofNames (hroot : fs.root.isDir = true) (hl : Spellable l) {v : Node}
    (hat : fs.at? l = some v) (hv : v.isLink = false) (follow : Bool) :
    fs.find follow (ofNames l) = .ok l := by
  by_cases hnil : l = []
  -- The root is spelled by no name at all, and its lookup is one step that stays.
  · subst hnil
    obtain ⟨es, hes⟩ := Node.isDir_iff.mp hroot
    exact find_rootDirectory hes follow
  · have hsome : (fs.root.at? ([] ++ l)).isSome := by simp [show fs.root.at? l = some v from hat]
    refine (find_eq_ok_iff (Path.isAbsolute_ofNames l)).mpr ⟨hl.accepted, Path.maxLinks, ?_⟩
    rw [Path.lookupSteps_ofNames hnil hl.isName]
    exact walk_names hl.name (plain_names hl.isName hat hv) hsome

theorem stat_ofNames (hroot : fs.root.isDir = true) (hl : Spellable l) {v : Node}
    (hat : fs.at? l = some v) (hv : v.isLink = false) : fs.stat (ofNames l) = .ok v :=
  stat_eq_ok_iff.mpr ⟨l, find_ofNames hroot hl hat hv true, hat⟩

theorem isDirectory_ofNames (hroot : fs.root.isDir = true) (hl : Spellable l)
    (hat : fs.at? l = some (.dir es)) : fs.isDirectory (ofNames l) = true :=
  isDirectory_iff.mpr ⟨l, es, find_ofNames hroot hl hat rfl true, hat⟩

/-! ## What is missing there -/

/-- Whatever stands on the way to a place is a directory. -/
def DirsTo (fs : FileSystem) (l : Location) : Prop :=
  ∀ l' v, l' <+: l → fs.at? l' = some v → v.isDir = true

theorem DirsTo.of_prefix {l' : Location} (h : fs.DirsTo l) (hl' : l' <+: l) : fs.DirsTo l' :=
  fun l'' v hl'' => h l'' v (hl''.trans hl')

/-- Steps down by names fail where nothing stands any more. -/
theorem walk_names_missing {root : Node} {links : Nat} {here : Location} {names : List Name}
    (hnames : ∀ n ∈ names, IsName n ∧ n.length ≤ Path.maxName)
    (hdirs : ∀ front v, front <+: names → root.at? (here ++ front) = some v → v.isDir = true)
    (hhere : (root.at? here).isSome) (hfree : root.at? (here ++ names) = none) :
    walk root true links here names = .error Errno.noEntry := by
  induction names generalizing here with
  | nil =>
      rw [List.append_nil] at hfree
      rw [hfree] at hhere
      cases hhere
  | cons n names ih =>
      obtain ⟨hname, hshort⟩ := hnames n (List.mem_cons_self ..)
      have hstep : here.step n = here ++ [n] := Path.step_of_isName hname here
      obtain ⟨v, hv⟩ := Option.isSome_iff_exists.mp hhere
      obtain ⟨es, rfl⟩ := Node.isDir_iff.mp (hdirs [] v List.nil_prefix (by simpa using hv))
      rw [walk, turn_of_dir hv hshort, hstep]
      cases hat : root.at? (here ++ [n]) with
      | none => rfl
      | some w =>
          obtain ⟨es', rfl⟩ := Node.isDir_iff.mp (hdirs [n] w (by simp) hat)
          have hdirs' : ∀ front u, front <+: names → root.at? (here ++ [n] ++ front) = some u →
              u.isDir = true := fun front u hfront hu =>
            hdirs (n :: front) u (by simpa using hfront) (by simpa using hu)
          exact ih (fun m hm => hnames m (List.mem_cons_of_mem _ hm)) hdirs' (by simp [hat])
            (by simpa using hfree)

theorem DirsTo.plain (h : fs.DirsTo l) (hl : ∀ n ∈ l, IsName n) : fs.Plain (ofNames l) := by
  intro cs hcs target hlink
  rw [Path.steps_ofNames hl] at hcs
  rw [Path.foldl_step_names fun n hn => hl n (hcs.subset hn), List.nil_append] at hlink
  exact absurd (h cs _ hcs hlink) (by simp [Node.isDir])

/-- The names of a free place lead to nothing. -/
theorem pathExists_missing (hl : ∀ n ∈ l, IsName n) (hdirs : fs.DirsTo l)
    (hfree : fs.at? l = none) : fs.pathExists (ofNames l) = false := by
  unfold pathExists
  cases hstat : fs.stat (ofNames l) with
  | error e => rfl
  | ok v =>
      obtain ⟨l', hfind, hat⟩ := stat_eq_ok_iff.mp hstat
      have hl' := find_of_plain (Path.isAbsolute_ofNames l) (hdirs.plain hl) hfind
      rw [hl', Path.location_ofNames hl, hfree] at hat
      cases hat

/-! ## Free places -/

section Free

variable (hl : Spellable (above ++ [n]))

include hl

theorem parentFrom_ofNames (hdir : fs.at? above = some (.dir es)) :
    parentFrom fs.root Path.maxLinks [] (ofNames (above ++ [n])) =
      .ok (above, Path.maxLinks) := by
  have habove := hl.of_prefix (List.prefix_append above [n])
  have hn : IsName n := hl.isName n (by simp)
  rw [← Path.push_ofNames habove.isName hn]
  exact parentFrom_push hdir hn
    (by rw [Path.steps_ofNames habove.isName]; exact walk_names_of_dir habove.name hdir _)

theorem lastStep_ofNames : lastStep (ofNames (above ++ [n])) = .name n false := by
  have hn : IsName n := hl.isName n (by simp)
  rw [← Path.push_ofNames (hl.of_prefix (List.prefix_append above [n])).isName hn]
  exact lastStep_push _ hn

theorem findSlot_ofNames (hdir : fs.at? above = some (.dir es))
    (hentry : fs.at? (above ++ [n]) = none ∨ ∃ id, fs.at? (above ++ [n]) = some (.file id)) :
    fs.findSlot (ofNames (above ++ [n])) = .ok (above, n) :=
  findSlot_eq_ok_iff.mpr ⟨hl.accepted, [], by simp [start, Path.isAbsolute_ofNames],
    writeSlot_eq_ok_iff.mpr ⟨above, Path.maxLinks, n, parentFrom_ofNames hl hdir,
      lastStep_ofNames hl, hl.short n (by simp), Or.inl ⟨rfl, rfl, hentry⟩⟩⟩

theorem makeDirectory_ofNames (hdir : fs.at? above = some (.dir es))
    (hfree : fs.at? (above ++ [n]) = none) :
    fs.makeDirectory (ofNames (above ++ [n])) = .ok (fs.insert above n (.dir [])) := by
  have hparent : fs.findParent (ofNames (above ++ [n])) = .ok (above, .name n false) :=
    findParent_eq_ok_iff.mpr ⟨hl.accepted, (lastStep_ofNames hl).symm, [], Path.maxLinks,
      by simp [start, Path.isAbsolute_ofNames], parentFrom_ofNames hl hdir⟩
  have hentry : fs.entryAt above n = .ok none :=
    entryAt_eq_ok_iff.mpr ⟨hl.short n (by simp), hfree⟩
  simp only [makeDirectory, hparent, hentry]

/-- A directory cannot be made where the one above it is missing. -/
theorem makeDirectory_missing (hdirs : fs.DirsTo above) (hmissing : fs.at? above = none) :
    fs.makeDirectory (ofNames (above ++ [n])) = .error (.system Errno.noEntry) := by
  have habove := hl.of_prefix (List.prefix_append above [n])
  have hwalk : walk fs.root true Path.maxLinks [] above = .error Errno.noEntry :=
    walk_names_missing habove.name hdirs (by simp) hmissing
  have hfrom : parentFrom fs.root Path.maxLinks [] (ofNames (above ++ [n])) =
      .error Errno.noEntry := by
    rw [parentFrom, Path.steps_ofNames hl.isName, List.dropLast_concat, hwalk]
  have hstart : fs.start (ofNames (above ++ [n])) = .ok [] := by
    simp [start, Path.isAbsolute_ofNames]
  have hparent : fs.findParent (ofNames (above ++ [n])) = .error (.system Errno.noEntry) := by
    simp only [findParent, hl.accepted, hstart, Except.bind, hfrom]
    rfl
  simp only [makeDirectory, hparent]

end Free

/-! ## Directories all the way down -/

/-- All that is new are directories on the way to a place where nothing stood, down to an empty
one there. -/
structure MadeTo (before : FileSystem) (l : Location) (after : FileSystem) : Prop where
  grows : before.GrowsTo after
  there : after.at? l = some (.dir [])
  same : ∀ l', ¬ l' <+: l → after.at? l' = before.at? l'
  files : after.files = before.files
  sound : before.Sound → after.Sound

theorem madeTo_insert (hn : IsName n) (hdir : fs.at? above = some (.dir es))
    (hfree : fs.at? (above ++ [n]) = none) :
    MadeTo fs (above ++ [n]) (fs.insert above n (.dir [])) where
  grows := growsTo_insert hdir hfree (Node.linkFree_dir (by simp))
  there := at?_insert_self hdir _
  same _ hl' := at?_insert_of_not_above hdir hfree rfl hl'
  files := rfl
  sound hsound := hsound.insert above hn (.emptyDir _)

/-- One directory more below those that have been made. -/
theorem MadeTo.concat {fs' : FileSystem} (hmade : MadeTo fs above fs') (hn : IsName n) :
    MadeTo fs (above ++ [n]) (fs'.insert above n (.dir [])) := by
  have hfree : fs'.at? (above ++ [n]) = none := Node.at?_concat_of_dir hmade.there n
  have hlast := madeTo_insert hn hmade.there hfree
  refine ⟨hmade.grows.trans hlast.grows, hlast.there, fun l' hl' => ?_,
    hlast.files.trans hmade.files, fun hsound => hlast.sound (hmade.sound hsound)⟩
  rw [hlast.same l' hl', hmade.same l' fun h => hl' (h.trans (List.prefix_append above [n]))]

/-- All that is missing on the way to a free place can be made. -/
theorem makeDirectories_ofNames {levels : Nat} (hl : Spellable l) (hdirs : fs.DirsTo l)
    (hfree : fs.at? l = none) (hlevels : l.length ≤ levels) :
    ∃ fs', fs.makeDirectories levels (ofNames l) = (.ok (), fs') ∧ MadeTo fs l fs' := by
  -- One name less and one level less; the root is there.
  induction l using List.reverseRecOn generalizing levels with
  | nil => simp [at?] at hfree
  | append_singleton above n ih =>
      have hprefix : above <+: above ++ [n] := List.prefix_append above [n]
      have hn : IsName n := hl.isName n (by simp)
      have hne : (ofNames (above ++ [n])).bytes ≠ [] := by simp [ofNames]
      unfold makeDirectories
      rw [if_neg hne]
      cases habove : fs.at? above with
      | some v =>
          obtain ⟨es, rfl⟩ := Node.isDir_iff.mp (hdirs above v hprefix habove)
          rw [makeDirectory_ofNames hl habove hfree]
          exact ⟨_, rfl, madeTo_insert hn habove hfree⟩
      | none =>
          obtain ⟨levels, rfl⟩ : ∃ k, levels = k + 1 := by
            rw [List.length_append, List.length_singleton] at hlevels
            exact ⟨levels - 1, by omega⟩
          have hparent : (ofNames (above ++ [n])).parent = some (ofNames above) := by
            rw [Path.parent_ofNames hl.isName (by simp), List.dropLast_concat]
          obtain ⟨fs', hok, hmade⟩ := ih (hl.of_prefix hprefix) (hdirs.of_prefix hprefix) habove
            (by simpa using hlevels)
          have hfree' : fs'.at? (above ++ [n]) = none := Node.at?_concat_of_dir hmade.there n
          have hlast := makeDirectory_ofNames hl hmade.there hfree'
          rw [makeDirectory_missing hl (hdirs.of_prefix hprefix) habove]
          simp only [isMissing, decide_true, Bool.true_or, Bool.not_true, Bool.false_eq_true,
            if_false, hparent, hok, hlast, acceptDirectory]
          exact ⟨_, rfl, hmade.concat hn⟩

end FileSystem

end LuaShell
