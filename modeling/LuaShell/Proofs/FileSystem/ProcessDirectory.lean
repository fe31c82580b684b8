import LuaShell.FileSystem.Tree
import LuaShell.Proofs.Path.Steps

/-!
# Absolute paths and the process directory

Relative paths start from the process directory, absolute ones from the root.  So a lookup
of an absolute path finds the same whether the process directory is there or not, and an
operation on absolute paths does the same: what it answers and what it makes of the files
is what it does when that directory is gone (`detached`).  The operations on whole trees go
through paths that they make themselves, and these are absolute again.
-/

namespace LuaShell.FileSystem

/-- The file system without a process directory. -/
def detached (fs : FileSystem) : FileSystem :=
  { fs with here := none }

section Pieces

variable (fs : FileSystem) (l : Location) (n : Name)

@[simp] theorem detached_root : fs.detached.root = fs.root := rfl

@[simp] theorem detached_files : fs.detached.files = fs.files := rfl

@[simp] theorem detached_at? : fs.detached.at? l = fs.at? l := rfl

@[simp] theorem detached_entryAt : fs.detached.entryAt l n = fs.entryAt l n := rfl

@[simp] theorem detached_file? (node : Node) : fs.detached.file? node = fs.file? node := by
  cases node <;> rfl

@[simp] theorem detached_insert (v : Node) :
    fs.detached.insert l n v = (fs.insert l n v).detached := rfl

@[simp] theorem detached_insertFile (f : File) :
    fs.detached.insertFile l n f = (fs.insertFile l n f).detached := rfl

@[simp] theorem detached_erase : fs.detached.erase l n = (fs.erase l n).detached := rfl

@[simp] theorem detached_setFile (id : Nat) (f : File) :
    fs.detached.setFile id f = (fs.setFile id f).detached := rfl

@[simp] theorem detached_clear : fs.detached.clear l = (fs.clear l).detached := rfl

@[simp] theorem detached_moveEntry (l' : Location) (n' : Name) (v : Node) :
    fs.detached.moveEntry l n l' n' v = (fs.moveEntry l n l' n' v).detached := rfl

end Pieces

variable {fs : FileSystem} {p q : Path}

/-! ## Lookups -/

section Lookups

variable (hp : p.isAbsolute = true)

include hp

theorem start_detached : fs.detached.start p = fs.start p := by
  simp only [start, hp, if_true]

theorem find_detached (follow : Bool) : fs.detached.find follow p = fs.find follow p := by
  simp only [find, start_detached hp, detached_root]

theorem stat_detached : fs.detached.stat p = fs.stat p := by
  simp only [stat, find_detached hp, detached_at?]

theorem lstat_detached : fs.detached.lstat p = fs.lstat p := by
  simp only [lstat, find_detached hp, detached_at?]

theorem pathExists_detached : fs.detached.pathExists p = fs.pathExists p := by
  simp only [pathExists, stat_detached hp]

theorem isDirectory_detached : fs.detached.isDirectory p = fs.isDirectory p := by
  simp only [isDirectory, stat_detached hp]

theorem findParent_detached : fs.detached.findParent p = fs.findParent p := by
  simp only [findParent, start_detached hp, detached_root]

theorem findSlot_detached : fs.detached.findSlot p = fs.findSlot p := by
  simp only [findSlot, start_detached hp, detached_root]

theorem readFile_detached : fs.detached.readFile p = fs.readFile p := by
  simp only [readFile, stat_detached hp, detached_files]

theorem readText_detached : fs.detached.readText p = fs.readText p := by
  simp only [readText, readFile_detached hp]

theorem readDirectory_detached : fs.detached.readDirectory p = fs.readDirectory p := by
  simp only [readDirectory, stat_detached hp]

/-! ## Single changes -/

theorem makeDirectory_detached :
    fs.detached.makeDirectory p = (fs.makeDirectory p).map detached := by
  unfold makeDirectory
  rw [findParent_detached hp]
  rcases fs.findParent p with e | ⟨l, last⟩
  · rfl
  cases last with
  | name n slash =>
      dsimp only
      rw [detached_entryAt]
      rcases fs.entryAt l n with e | _ | old <;> rfl
  | _ => rfl

theorem createFile_detached :
    fs.detached.createFile p = (fs.createFile p).map detached := by
  unfold createFile
  rw [findParent_detached hp]
  rcases fs.findParent p with e | ⟨l, last⟩
  · rfl
  cases last with
  | name n slash =>
      cases slash with
      | true => rfl
      | false =>
          dsimp only
          rw [detached_entryAt]
          rcases fs.entryAt l n with e | _ | old <;> rfl
  | _ => rfl

theorem removeFile_detached :
    fs.detached.removeFile p = (fs.removeFile p).map detached := by
  unfold removeFile
  rw [findParent_detached hp]
  rcases fs.findParent p with e | ⟨l, last⟩
  · rfl
  cases last with
  | name n slash =>
      dsimp only
      rw [detached_entryAt]
      rcases fs.entryAt l n with e | _ | old
      · rfl
      · rfl
      · cases old <;> cases slash <;> rfl
  | _ => rfl

theorem removeDirectory_detached :
    fs.detached.removeDirectory p = (fs.removeDirectory p).map detached := by
  unfold removeDirectory
  rw [findParent_detached hp]
  rcases fs.findParent p with e | ⟨l, last⟩
  · rfl
  cases last with
  | name n slash =>
      dsimp only
      rw [detached_entryAt]
      rcases fs.entryAt l n with e | _ | old
      · rfl
      · rfl
      · rcases old with id | target | (_ | ⟨e, es⟩) <;> rfl
  | _ => rfl

/-! ## Removing trees -/

omit hp in
theorem attempt_detached (made : Except IoError FileSystem) :
    fs.detached.attempt (made.map detached) = (fs.attempt made).map id detached := by
  cases made <;> rfl

theorem removeEmptied_detached :
    fs.detached.removeEmptied p = (fs.removeEmptied p).map id detached := by
  unfold removeEmptied
  rw [removeDirectory_detached hp]
  cases fs.removeDirectory p <;> rfl

theorem removeTree_detached :
    fs.detached.removeTree p = (fs.removeTree p).map id detached := by
  unfold removeTree
  rw [lstat_detached hp, find_detached hp]
  rcases fs.lstat p with e | node
  · rfl
  rcases fs.find false p with e | l
  · rfl
  cases node with
  | file id => rfl
  | link target =>
      dsimp only
      rw [removeFile_detached hp, attempt_detached]
  | dir es =>
      dsimp only
      rw [detached_clear, removeEmptied_detached hp]

end Lookups

/-! ## Renaming and copying -/

section Pairs

variable (hp : p.isAbsolute = true) (hq : q.isAbsolute = true)

include hp hq

theorem rename_detached : fs.detached.rename p q = (fs.rename p q).map detached := by
  unfold rename
  rw [findParent_detached hp, findParent_detached hq]
  rcases fs.findParent p with e | ⟨l, last⟩
  · rfl
  rcases fs.findParent q with e | ⟨l', last'⟩
  · rfl
  cases last with
  | name n slash =>
      cases last' with
      | name n' slash' =>
          dsimp only
          rw [detached_entryAt, detached_entryAt]
          rcases fs.entryAt l n with e | _ | v
          · rfl
          · rfl
          rcases fs.entryAt l' n' with e | old
          · rfl
          dsimp only
          split
          · rfl
          split
          · rfl
          split
          · rfl
          rcases old with _ | w
          · rfl
          dsimp only
          split
          · rfl
          · rcases mayReplace v w with e | _ <;> rfl
      | _ => rfl
  | _ => cases last' <;> rfl

theorem copyFile_detached : fs.detached.copyFile p q = (fs.copyFile p q).map detached := by
  unfold copyFile
  rw [stat_detached hp, findSlot_detached hq]
  rcases fs.stat p with e | node
  · rfl
  cases node with
  | file id =>
      rcases fs.findSlot q with e | ⟨l, n⟩
      · rfl
      dsimp only
      rw [detached_at?]
      rcases (fs.at? l).bind (·.child? n) with _ | (old | target | es) <;> rfl
  | _ => rfl

end Pairs

/-! ## Making and copying trees -/

theorem acceptDirectory_detached (hp : p.isAbsolute = true) (made : Except IoError FileSystem) :
    fs.detached.acceptDirectory p (made.map detached) =
      (fs.acceptDirectory p made).map id detached := by
  cases made with
  | ok fs' => rfl
  | error e =>
      simp only [acceptDirectory, isDirectory_detached hp, Except.map]
      split <;> rfl

theorem isAbsolute_parent (hp : p.isAbsolute = true) {above : Path}
    (habove : p.parent = some above) : above.isAbsolute = true :=
  (Path.steps_parent hp habove).1

theorem makeDirectories_detached (levels : Nat) (hp : p.isAbsolute = true) :
    makeDirectories levels fs.detached p = (makeDirectories levels fs p).map id detached := by
  induction levels generalizing fs p with
  | zero =>
      unfold makeDirectories
      rw [makeDirectory_detached hp]
      split
      · rfl
      rcases fs.makeDirectory p with e | fs'
      · dsimp only [Except.map]
        split
        · exact acceptDirectory_detached hp (.error e)
        · rcases p.parent with _ | above <;> rfl
      · rfl
  | succ levels ih =>
      unfold makeDirectories
      rw [makeDirectory_detached hp]
      split
      · rfl
      rcases fs.makeDirectory p with e | fs'
      · dsimp only [Except.map]
        split
        · exact acceptDirectory_detached hp (.error e)
        · rcases hparent : p.parent with _ | above
          · rfl
          · dsimp only
            -- The second attempt is made on the files as the directories above have left them.
            rw [ih (isAbsolute_parent hp hparent)]
            rcases makeDirectories levels fs above with ⟨e | _, fs'⟩
            · rfl
            · dsimp only [Prod.map, id]
              rw [makeDirectory_detached hp, acceptDirectory_detached hp]
              rfl
      · rfl

theorem makeTarget_detached (hq : q.isAbsolute = true) :
    fs.detached.makeTarget q = (fs.makeTarget q).map id detached := by
  unfold makeTarget makeAllDirectories
  rw [pathExists_detached hq, makeDirectories_detached _ hq]
  split <;> rfl

/-- Entries are copied in the same way if directories among them are. -/
theorem copyEntries_detached {copyDirectory : FileSystem → Path → Path → Outcome}
    (hcopy : ∀ (fs : FileSystem) {p q : Path}, p.isAbsolute = true → q.isAbsolute = true →
      copyDirectory fs.detached p q = (copyDirectory fs p q).map id detached)
    (hp : p.isAbsolute = true) (hq : q.isAbsolute = true) (entries : List (Name × Node)) :
    copyEntries copyDirectory p q fs.detached entries =
      (copyEntries copyDirectory p q fs entries).map id detached := by
  induction entries generalizing fs with
  | nil => rfl
  | cons e entries ih =>
      obtain ⟨name, node⟩ := e
      have hsource : (p.push name).isAbsolute = true := Path.isAbsolute_join hp _
      have htarget : (q.push name).isAbsolute = true := Path.isAbsolute_join hq _
      have hentry : copyEntry copyDirectory p q fs.detached name node =
          (copyEntry copyDirectory p q fs name node).map id detached := by
        unfold copyEntry
        rw [hcopy fs hsource htarget, copyFile_detached hsource htarget, attempt_detached]
        split <;> rfl
      unfold copyEntries
      rw [hentry]
      rcases copyEntry copyDirectory p q fs name node with ⟨e | _, fs'⟩
      · rfl
      · exact ih

theorem copyLevels_detached (levels : Nat) (hp : p.isAbsolute = true) (hq : q.isAbsolute = true) :
    copyLevels levels fs.detached p q = (copyLevels levels fs p q).map id detached := by
  induction levels generalizing fs p q with
  | zero => rfl
  | succ levels ih =>
      unfold copyLevels
      rw [makeTarget_detached hq]
      rcases fs.makeTarget q with ⟨e | _, fs'⟩
      · rfl
      dsimp only [Prod.map, id]
      rw [readDirectory_detached hp]
      rcases fs'.readDirectory p with e | entries
      · rfl
      · exact copyEntries_detached (fun fs _ _ hp hq => ih hp hq) hp hq entries

theorem copyTree_detached (hp : p.isAbsolute = true) (hq : q.isAbsolute = true) :
    fs.detached.copyTree p q = (fs.copyTree p q).map id detached :=
  copyLevels_detached _ hp hq

end LuaShell.FileSystem
