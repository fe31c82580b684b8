import LuaShell.Proofs.FileSystem.Entries
import LuaShell.Proofs.Path.Canonical

/-!
# Sound file systems

The tree type allows more than a disk can hold.  In a sound file system every entry of a
directory has a proper name, no name stands twice in one directory, and every file entry
has the number of a file that there is.  The empty file system is sound, and new entries,
new files and new contents keep one sound.  Of a given file system it is decidable.
-/

namespace LuaShell

open LuaShell.Path (IsName)

/-- Names are proper and stand once in a directory, and files have numbers below `size`. -/
inductive Node.Sound (size : Nat) : Node → Prop
  | file (id : Nat) (hid : id < size) : Sound size (.file id)
  | link (target : Path) : Sound size (.link target)
  | dir (es : List (Name × Node)) (hnames : ∀ e ∈ es, IsName e.1)
      (hnodup : (es.map (·.1)).Nodup) (hbelow : ∀ e ∈ es, e.2.Sound size) : Sound size (.dir es)

/-- A tree of proper names whose files are there. -/
def FileSystem.Sound (fs : FileSystem) : Prop :=
  fs.root.Sound fs.files.size

namespace Node.Sound

variable {size : Nat} {n : Node}

theorem emptyDir (size : Nat) : (Node.dir []).Sound size :=
  .dir [] (by simp) (by simp) (by simp)

/-- Whatever stands in a sound tree is sound. -/
theorem at? {l : Location} {m : Node} (hn : n.Sound size) (hat : n.at? l = some m) :
    m.Sound size := by
  induction l generalizing n with
  | nil =>
      rw [at?_nil] at hat
      cases hat
      exact hn
  | cons x l ih =>
      cases hn with
      | file id hid => simp [at?_cons, child?, entries] at hat
      | link target => simp [at?_cons, child?, entries] at hat
      | dir es hnames hnodup hsound =>
          obtain ⟨child, hchild, hbelow⟩ := mem_of_at?_cons hat
          exact ih (hsound (x, child) hchild) hbelow

/-- Whatever stands in a sound tree stands there by proper names. -/
theorem isName {l : Location} (hn : n.Sound size) (hat : (n.at? l).isSome) : ∀ x ∈ l, IsName x := by
  obtain ⟨m, hm⟩ := Option.isSome_iff_exists.mp hat
  clear hat
  induction l generalizing n with
  | nil => simp
  | cons x l ih =>
      cases hn with
      | file id hid => simp [at?_cons, child?, entries] at hm
      | link target => simp [at?_cons, child?, entries] at hm
      | dir es hnames hnodup hsound =>
          obtain ⟨child, hchild, hbelow⟩ := mem_of_at?_cons hm
          have hrest := ih (hsound (x, child) hchild) hbelow
          exact List.forall_mem_cons.mpr ⟨hnames (x, child) hchild, hrest⟩

/-- More files do no harm. -/
theorem mono {size' : Nat} (hn : n.Sound size) (hsize : size ≤ size') : n.Sound size' := by
  induction hn with
  | file id hid => exact .file id (by omega)
  | link target => exact .link target
  | dir es hnames hnodup _ ih => exact .dir es hnames hnodup ih

/-- A change at one place keeps the tree sound if it does so there. -/
theorem update {f : Node → Node} (hf : ∀ m, m.Sound size → (f m).Sound size)
    (hn : n.Sound size) (l : Location) : (n.update f l).Sound size := by
  induction l generalizing n with
  | nil => exact hf n hn
  | cons x l ih =>
      cases hn with
      | file id hid => exact .file id hid
      | link target => exact .link target
      | dir es hnames hnodup hbelow =>
          have hkeys : (es.map fun e => if e.1 = x then (e.1, e.2.update f l) else e).map (·.1) =
              es.map (·.1) := by
            rw [List.map_map]
            refine List.map_congr_left fun e _ => ?_
            by_cases he : e.1 = x
            · simp [he]
            · simp [he]
          refine .dir _ ?_ (hkeys ▸ hnodup) ?_
          · intro e he
            have hkey : e.1 ∈ es.map (·.1) := hkeys ▸ List.mem_map_of_mem he
            obtain ⟨e', he', hname⟩ := List.mem_map.mp hkey
            exact hname ▸ hnames e' he'
          · intro e he
            obtain ⟨e', he', rfl⟩ := List.mem_map.mp he
            by_cases hx : e'.1 = x
            · simpa [hx] using ih (hbelow e' he')
            · simpa [hx] using hbelow e' he'

/-- A directory stays sound with one sound entry more. -/
theorem insert {name : Name} {v : Node} (hname : IsName name) (hv : v.Sound size)
    (hn : n.Sound size) : (Node.insert name v n).Sound size := by
  cases hn with
  | file id hid => exact .file id hid
  | link target => exact .link target
  | dir es hnames hnodup hbelow =>
      -- An entry of that name is taken out before the new one is put in.
      have hother : name ∉ (es.filter (·.1 ≠ name)).map (·.1) := by
        simp
      refine .dir _ ?_ ?_ ?_
      · intro e he
        rcases List.mem_append.mp he with he | he
        · exact hnames e (List.mem_filter.mp he).1
        · rw [List.mem_singleton.mp he]
          exact hname
      · rw [List.map_append, List.nodup_append]
        refine ⟨hnodup.sublist (List.filter_sublist.map _), by simp, ?_⟩
        intro x hx y hy heq
        obtain rfl : y = name := by simpa using hy
        exact hother (heq ▸ hx)
      · intro e he
        rcases List.mem_append.mp he with he | he
        · exact hbelow e (List.mem_filter.mp he).1
        · rw [List.mem_singleton.mp he]
          exact hv

end Node.Sound

namespace Node

theorem sound_dir_iff {size : Nat} {es : List (Name × Node)} :
    (Node.dir es).Sound size ↔
      (∀ e ∈ es, IsName e.1) ∧ (es.map (·.1)).Nodup ∧ ∀ e ∈ es, e.2.Sound size := by
  constructor
  · intro hsound
    cases hsound with
    | dir _ hnames hnodup hbelow => exact ⟨hnames, hnodup, hbelow⟩
  · rintro ⟨hnames, hnodup, hbelow⟩
    exact .dir es hnames hnodup hbelow

theorem sound_file_iff {size id : Nat} : (Node.file id).Sound size ↔ id < size := by
  constructor
  · intro hsound
    cases hsound with
    | file _ hid => exact hid
  · exact .file id

mutual

/-- Whether a tree is sound, by a walk through it. -/
def decSound (size : Nat) : (n : Node) → Decidable (n.Sound size)
  | .file _ => decidable_of_iff _ sound_file_iff.symm
  | .link target => isTrue (.link target)
  | .dir es =>
      let _ := decSoundBelow size es
      decidable_of_iff _ sound_dir_iff.symm

/-- Whether what the entries of a directory hold is sound. -/
def decSoundBelow (size : Nat) :
    (es : List (Name × Node)) → Decidable (∀ e ∈ es, e.2.Sound size)
  | [] => isTrue fun _ he => nomatch he
  | (_, n) :: es =>
      let _ := decSound size n
      let _ := decSoundBelow size es
      decidable_of_iff _ List.forall_mem_cons.symm

end

instance (size : Nat) (n : Node) : Decidable (n.Sound size) :=
  decSound size n

end Node

instance (fs : FileSystem) : Decidable fs.Sound :=
  inferInstanceAs (Decidable (fs.root.Sound _))

namespace FileSystem.Sound

variable {fs : FileSystem}

theorem empty : FileSystem.empty.Sound :=
  Node.Sound.emptyDir _

theorem file_lt (hsound : fs.Sound) {l : Location} {id : Nat}
    (hat : fs.at? l = some (.file id)) : id < fs.files.size :=
  Node.sound_file_iff.mp (Node.Sound.at? hsound hat)

/-- What a directory lists stands below it, by a proper name. -/
theorem of_mem_dir (hsound : fs.Sound) {l : Location} {es : List (Name × Node)}
    (hdir : fs.at? l = some (.dir es)) {name : Name} {n : Node} (hmem : (name, n) ∈ es) :
    IsName name ∧ fs.at? (l ++ [name]) = some n := by
  cases Node.Sound.at? hsound hdir with
  | dir _ hnames hnodup _ =>
      refine ⟨hnames _ hmem, ?_⟩
      rw [show fs.at? (l ++ [name]) = es.lookup name from Node.at?_concat_of_dir hdir name]
      obtain ⟨before, after, rfl⟩ := List.append_of_mem hmem
      refine List.lookup_eq_some_iff.mpr ⟨before, after, rfl, ?_⟩
      intro e he
      rw [List.map_append, List.nodup_append] at hnodup
      have hne := hnodup.2.2 e.1 (List.mem_map_of_mem he) name (by simp)
      simpa using Ne.symm hne

theorem insert (hsound : fs.Sound) (l : Location) {name : Name} (hname : IsName name) {v : Node}
    (hv : v.Sound fs.files.size) : (fs.insert l name v).Sound :=
  Node.Sound.update (fun _ hn => Node.Sound.insert hname hv hn) hsound l

theorem insertFile (hsound : fs.Sound) (l : Location) {name : Name} (hname : IsName name)
    (f : File) : (fs.insertFile l name f).Sound := by
  have hsize : (fs.insertFile l name f).files.size = fs.files.size + 1 := by
    simp [FileSystem.insertFile]
  unfold FileSystem.Sound
  rw [hsize]
  have hfile : (Node.file fs.files.size).Sound (fs.files.size + 1) := .file _ (by omega)
  exact Node.Sound.update (fun _ hn => Node.Sound.insert hname hfile hn)
    (Node.Sound.mono hsound (by omega)) l

theorem setFile (hsound : fs.Sound) (id : Nat) (f : File) : (fs.setFile id f).Sound := by
  simpa [FileSystem.Sound, FileSystem.setFile] using hsound

end FileSystem.Sound

end LuaShell
