import LuaShell.Proofs.Command.FileContract
import LuaShell.Proofs.Copy.Growth
import LuaShell.Proofs.FileSystem.Removal
import LuaShell.Proofs.Path.WorkingDirectory

/-!
# The working directory over any run of commands

No command asks whether the working directory is in the way.  It stays absolute whatever
is called.  It stays a directory until a removal, a rename or a move takes something away
that its lookup passes, and these are the only calls that can (`takes_of_cutBy`); a removal
that does so always loses it.
-/

namespace LuaShell

open Lua (Value)

namespace FileSystem

/-! ## Directories above -/

/-- Above a directory that is found there is one that is found. -/
theorem isDirectory_parent {fs : FileSystem} {p q : Path} (habs : p.isAbsolute = true)
    (hq : p.parent = some q) (hdir : fs.isDirectory p = true) : fs.isDirectory q = true := by
  obtain ⟨l, es, hfind, hat⟩ := isDirectory_iff.mp hdir
  obtain ⟨hrefusal, left, hwalk⟩ := (find_eq_ok_iff habs).mp hfind
  obtain ⟨habs', hsteps⟩ := Path.steps_parent habs hq
  obtain ⟨rest, hrest⟩ : q.steps <+: p.lookupSteps := by
    unfold Path.lookupSteps
    split
    · exact hsteps.trans (List.prefix_append _ _)
    · exact hsteps
  rw [← hrest, walk_append] at hwalk
  cases habove : walk fs.root true Path.maxLinks [] q.steps with
  | error e => simp [habove, Except.bind] at hwalk
  | ok r =>
      obtain ⟨d, leftAbove⟩ := r
      simp only [habove, Except.bind] at hwalk
      -- The way goes on from there or ends there.
      obtain ⟨es', hes'⟩ : ∃ es', fs.root.at? d = some (.dir es') := by
        cases rest with
        | nil =>
            rw [walk] at hwalk
            cases hwalk
            exact ⟨es, hat⟩
        | cons c rest => exact dir_of_walk_cons hwalk
      have hlookup : walk fs.root true Path.maxLinks [] q.lookupSteps = .ok (d, leftAbove) := by
        unfold Path.lookupSteps
        split
        · rw [walk_append, habove]
          simp [Except.bind, walk, turn_dot hes']
        · exact habove
      exact isDirectory_iff.mpr ⟨d, es', (find_eq_ok_iff habs').mpr
        ⟨Path.refusal?_parent habs hq hrefusal, leftAbove, hlookup⟩, hes'⟩

theorem isDirectory_walkUp {fs : FileSystem} (steps : Nat) {p : Path} (habs : p.isAbsolute = true)
    (hdir : fs.isDirectory p = true) : fs.isDirectory (WorkingDirectory.walkUp steps p) = true := by
  induction steps generalizing p with
  | zero => exact hdir
  | succ steps ih =>
      rw [WorkingDirectory.walkUp_succ]
      cases hparent : p.parent with
      | none => exact hdir
      | some above =>
          exact ih (Path.steps_parent habs hparent).1 (isDirectory_parent habs hparent hdir)

/-! ## Ways that are cut -/

/-- Something that the lookup of a path has passed is not there any more, or is of another kind. -/
def Cuts (before after : FileSystem) (p : Path) : Prop :=
  ∃ l ∈ before.passes p, ¬ before.root.KeepsAt after.root l

variable {before after : FileSystem} {p : Path}

theorem keepsAt_of_not_cuts (hkept : ¬ Cuts before after p) :
    ∀ l ∈ before.passes p, before.root.KeepsAt after.root l := by
  intro l hl
  by_contra hcut
  exact hkept ⟨l, hl, hcut⟩

theorem not_cuts_of_growsTo (hgrow : before.GrowsTo after) : ¬ Cuts before after p := by
  rintro ⟨l, -, hcut⟩
  exact hcut (hgrow.root.keepsAt l)

/-- Where nothing is new, a way to a directory that has been cut leads to no directory. -/
theorem not_isDirectory_of_cuts (habs : p.isAbsolute = true)
    (hshrinks : ∀ l, after.root.KeepsAt before.root l) (hcut : Cuts before after p) :
    after.isDirectory p = false := by
  rw [Bool.eq_false_iff]
  intro hdir
  obtain ⟨l, es, hfind, -⟩ := isDirectory_iff.mp hdir
  obtain ⟨l', hl', hgone⟩ := hcut
  -- The way that is left is the way that was gone before, so all of it is still there.
  rw [passes_of_keepsAt habs (fun l _ => hshrinks l) hfind] at hl'
  obtain ⟨m, hm⟩ := Option.isSome_iff_exists.mp (isSome_of_mem_passes habs hfind l' hl')
  obtain ⟨n, hn, hkind⟩ := (hshrinks l').exists_kind hm
  refine hgone (.of_kind ?_)
  rw [show before.root.at? l' = some n from hn, show after.root.at? l' = some m from hm,
    Option.map_some, Option.map_some, hkind]

end FileSystem

/-! ## Operations -/

namespace FileCommand

open LuaShell.FileSystem

variable (fs : FileSystem) (p q : Path)

theorem growsTo_createFile : fs.GrowsTo (createFile fs p).2 := by
  unfold createFile
  split
  · next fs' hmade => exact FileSystem.growsTo_createFile hmade
  · split <;> exact GrowsTo.refl fs

theorem growsTo_createDirectory : fs.GrowsTo (createDirectory fs p).2 := by
  unfold createDirectory
  split
  · next fs' hmade => exact growsTo_makeDirectory hmade
  · split <;> exact GrowsTo.refl fs

theorem growsTo_copy : fs.GrowsTo (copy fs p q).2 := by
  unfold copy
  split
  · split
    · exact GrowsTo.refl fs
    · have hgrow := growsTo_copyTree fs p q
      rcases hcopied : fs.copyTree p q with ⟨e | _, fs'⟩
      · rwa [hcopied] at hgrow
      · rwa [hcopied] at hgrow
  · cases hcopied : fs.copyFile p q with
    | error e => exact GrowsTo.refl fs
    | ok fs' => exact growsTo_copyFile hcopied

variable {p q}

/-- No file that is removed is passed on the way to a directory. -/
theorem not_cuts_removeFile (habs : q.isAbsolute = true) (hdir : fs.isDirectory q = true) :
    ¬ Cuts fs (removeFile fs p).2 q := by
  unfold removeFile
  split
  · exact not_cuts_of_growsTo (GrowsTo.refl fs)
  · next hexists =>
      split
      · exact not_cuts_of_growsTo (GrowsTo.refl fs)
      · next hfile =>
          cases hremoved : fs.removeFile p with
          | error e => exact not_cuts_of_growsTo (GrowsTo.refl fs)
          | ok fs' =>
              rintro ⟨l, hl, hcut⟩
              exact hcut (keepsAt_removeFile habs hdir (by simpa using hexists)
                (by simpa using hfile) hremoved l hl)

theorem removes_several (habs : p.isAbsolute = true) {l : Location}
    (hfind : fs.find false p = .ok l) : Removes fs l (several (fs.removeTree p)).2 := by
  have hremoves := removes_removeTree habs hfind
  rcases hremoved : fs.removeTree p with ⟨e | _, fs'⟩
  · rwa [hremoved] at hremoves
  · rwa [hremoved] at hremoves

/-- `rd` changes nothing or removes from where its path leads. -/
theorem removes_removeDirectory (habs : p.isAbsolute = true) :
    (removeDirectory fs p).2 = fs ∨
      ∃ l, fs.find false p = .ok l ∧ Removes fs l (removeDirectory fs p).2 := by
  unfold removeDirectory
  split
  · exact Or.inl rfl
  · split
    · exact Or.inl rfl
    · cases hfind : fs.find false p with
      | error e =>
          left
          have hstat : fs.lstat p = .error e := by simp [lstat, hfind]
          simp [removeTree, hstat, several]
      | ok l => exact Or.inr ⟨l, rfl, removes_several fs habs hfind⟩

/-- So does `rm`. -/
theorem removes_removeAny (habs : p.isAbsolute = true) :
    (removeAny fs p).2 = fs ∨
      ∃ l, fs.find false p = .ok l ∧ Removes fs l (removeAny fs p).2 := by
  unfold removeAny
  split
  · exact Or.inl rfl
  · next es hstat =>
      obtain ⟨l, hfind, -⟩ := lstat_eq_ok_iff.mp hstat
      exact Or.inr ⟨l, hfind, removes_several fs habs hfind⟩
  · cases hremoved : fs.removeFile p with
    | error e => exact Or.inl rfl
    | ok fs' =>
        obtain ⟨l, hfind, hremoves⟩ := removes_removeFile hremoved
        exact Or.inr ⟨l, hfind, hremoves⟩

/-- A move takes away what stands at its source, and replaces what stands at its target. -/
theorem cut_of_move {l : Location} (hcut : ¬ fs.root.KeepsAt (move fs p q).2.root l) :
    ∃ d n slash, (fs.findParent p = .ok (d, .name n slash) ∨
      fs.findParent q = .ok (d, .name n slash)) ∧ d ++ [n] <+: l := by
  unfold move at hcut
  cases hmoved : fs.rename p q with
  | error e =>
      rw [hmoved] at hcut
      exact absurd (.of_kind rfl) hcut
  | ok fs' =>
      rw [hmoved] at hcut
      obtain ⟨d, n, slash, d', n', slash', hparent, hparent', rfl | ⟨v, rfl⟩⟩ := of_rename hmoved
      · exact absurd (.of_kind rfl) hcut
      · by_cases hsource : d ++ [n] <+: l
        · exact ⟨d, n, slash, Or.inl hparent, hsource⟩
        by_cases htarget : d' ++ [n'] <+: l
        · exact ⟨d', n', slash', Or.inr hparent', htarget⟩
        exact absurd (keepsAt_moveEntry fs v hsource htarget) hcut

/-- A rename is a move or changes nothing. -/
theorem rename_snd : (rename fs p q).2 = fs ∨ (rename fs p q).2 = (move fs p q).2 := by
  unfold rename
  split
  · exact Or.inr rfl
  · exact Or.inl rfl

end FileCommand

/-! ## Calls -/

/-- A command and the values that are passed to it. -/
structure Call where
  command : Command
  values : List Value

namespace Call

/-- `cd`, or a command that works on the files. -/
def IsNative (c : Call) : Prop :=
  c.command = .changeDirectory ∨ c.command.operation?.isSome

/-- `rm` and `rd`, which remove whole trees. -/
def IsRemoval (c : Call) : Prop :=
  c.command = .removeAny ∨ c.command = .removeDirectory

/-- `rename` and `move`. -/
def IsMove (c : Call) : Prop :=
  c.command = .rename ∨ c.command = .move

/-- The places whose entries a call can take away or replace: what a removal leads to, and both
entries of a move. -/
inductive Takes (h : Host) (c : Call) : Location → Prop
  | removed {raw : String} {l : Location} (hc : c.IsRemoval)
      (hraw : Arguments.text? c.values 0 = some raw)
      (hfind : h.files.find false (h.resolve raw) = .ok l) : Takes h c l
  | moved {i : Nat} {raw : String} {d : Location} {n : Name} {slash : Bool} (hc : c.IsMove)
      (hi : i < 2) (hraw : Arguments.text? c.values i = some raw)
      (hparent : h.files.findParent (h.resolve raw) = .ok (d, .name n slash)) :
      Takes h c (d ++ [n])

end Call

/-- A host changes its working directory or refuses to, and leaves the files. -/
theorem Host.of_changeDirectory (h : Host) (target : DirectoryTarget) :
    (∃ e, h.changeDirectory target = (.error e, h)) ∨
      ∃ d h', h.directory.change h.files.isDirectory target = .ok d ∧
        h.changeDirectory target = (.ok (), h') ∧ h'.files = h.files ∧ h'.directory = d := by
  unfold changeDirectory
  cases hchange : h.directory.change h.files.isDirectory target with
  | error e => exact Or.inl ⟨e, rfl⟩
  | ok d =>
      cases target with
      | up steps => exact Or.inr ⟨d, _, rfl, rfl, rfl, rfl⟩
      | path raw => exact Or.inr ⟨d, _, rfl, rfl, record_files _ _ _ _, rfl⟩

/-- `cd` leaves the files, and goes where a change of the working directory goes, or nowhere. -/
theorem DirectoryCommand.of_changeDirectory (values : List Value) (h : Host) :
    (changeDirectory values h).2.files = h.files ∧
      ((changeDirectory values h).2.directory = h.directory ∨
        ∃ target, h.directory.change h.files.isDirectory target =
          .ok (changeDirectory values h).2.directory) := by
  unfold changeDirectory
  dsimp only
  split
  · exact ⟨rfl, Or.inl rfl⟩
  · split
    · exact ⟨rfl, Or.inl rfl⟩
    · next target _ =>
        rcases h.of_changeDirectory target with ⟨e, hrefused⟩ | ⟨d, h', hchange, hmoved, hfiles, rfl⟩
        · rw [hrefused]
          dsimp only [Except.mapError]
          rw [Host.settle_error]
          exact ⟨rfl, Or.inl rfl⟩
        · rw [hmoved]
          exact ⟨hfiles, Or.inr ⟨target, hchange⟩⟩

/-- A change of the working directory goes from a directory to a directory. -/
theorem WorkingDirectory.of_change {d d' : WorkingDirectory} {fs : FileSystem}
    {target : DirectoryTarget} (habs : d.current.isAbsolute = true)
    (hchange : d.change fs.isDirectory target = .ok d') :
    d'.current.isAbsolute = true ∧
      (fs.isDirectory d.current = true → fs.isDirectory d'.current = true) := by
  cases target with
  | up steps =>
      cases hchange
      exact ⟨isAbsolute_walkUp _ habs, FileSystem.isDirectory_walkUp _ habs⟩
  | path raw =>
      simp only [change] at hchange
      split at hchange
      · next hdir =>
          cases hchange
          exact ⟨(Path.isCanonical_normalize (isAbsolute_resolve habs raw)).isAbsolute,
            fun _ => hdir⟩
      · cases hchange

namespace Machine

variable {ε χ : Type} (E : Engine ε χ)

/-- The machine after a call, whatever it has answered. -/
def afterCall (m : Machine ε) (c : Call) : Machine ε :=
  (c.command.invoke E c.values m).2

/-- The machine after one call after another. -/
def after (m : Machine ε) (calls : List Call) : Machine ε :=
  calls.foldl (afterCall E) m

/-- The working directory is a directory. -/
def InDirectory (m : Machine ε) : Prop :=
  m.host.files.isDirectory m.host.directory.current = true

/-- A call takes something away that the lookup of the working directory passes, or puts something
of another kind in its place. -/
def CutBy (m : Machine ε) (c : Call) : Prop :=
  FileSystem.Cuts m.host.files (m.afterCall E c).host.files m.host.directory.current

variable {E} {m : Machine ε} {c : Call}

/-! ## One call -/

/-- A file command leaves the working directory, and the files as its operation does. -/
theorem host_of_operation {op : FileOperation} (hop : c.command.operation? = some op) :
    (m.afterCall E c).host.directory = m.host.directory ∧
      (m.afterCall E c).host.files =
        ((op.outcome? c.values m.host).map (·.2)).getD m.host.files := by
  obtain ⟨name, hinvoke⟩ := c.command.invoke_eq_carryOut E hop
  unfold afterCall
  rw [hinvoke, Command.onHost]
  rcases houtcome : op.outcome? c.values m.host with _ | ⟨e | _, files⟩
  · obtain ⟨e, hraises⟩ := FileOperation.carryOut_of_none houtcome name
    rw [hraises]
    exact ⟨rfl, rfl⟩
  · rw [FileOperation.carryOut_of_outcome houtcome, Host.settle_error]
    exact ⟨rfl, rfl⟩
  · rw [FileOperation.carryOut_of_outcome houtcome]
    exact ⟨rfl, rfl⟩

/-- After any call the working directory is absolute if it was so before. -/
theorem isAbsolute_afterCall (hc : c.IsNative)
    (habs : m.host.directory.current.isAbsolute = true) :
    (m.afterCall E c).host.directory.current.isAbsolute = true := by
  rcases hc with hcd | hfile
  · have hstep := DirectoryCommand.of_changeDirectory c.values m.host
    unfold afterCall
    rw [hcd, Command.invoke, Command.onHost]
    rcases hstep.2 with hsame | ⟨target, hchange⟩
    · rwa [hsame]
    · exact (WorkingDirectory.of_change habs hchange).1
  · obtain ⟨op, hop⟩ := Option.isSome_iff_exists.mp hfile
    rwa [(host_of_operation hop).1]

/-- It is a directory after a call that does not cut it off. -/
theorem inDirectory_afterCall (hc : c.IsNative)
    (habs : m.host.directory.current.isAbsolute = true) (hdir : m.InDirectory)
    (hkept : ¬ m.CutBy E c) : (m.afterCall E c).InDirectory := by
  rcases hc with hcd | hfile
  · obtain ⟨hfiles, hmoved⟩ := DirectoryCommand.of_changeDirectory c.values m.host
    unfold InDirectory afterCall
    rw [hcd, Command.invoke, Command.onHost]
    dsimp only
    rw [hfiles]
    rcases hmoved with hsame | ⟨target, hchange⟩
    · rwa [hsame]
    · exact (WorkingDirectory.of_change habs hchange).2 hdir
  · obtain ⟨op, hop⟩ := Option.isSome_iff_exists.mp hfile
    unfold InDirectory
    rw [(host_of_operation hop).1]
    exact FileSystem.isDirectory_of_keepsAt habs (FileSystem.keepsAt_of_not_cuts hkept) hdir

/-- A call that cuts the working directory off has come to an outcome that does. -/
theorem outcome_of_cutBy {op : FileOperation} (hop : c.command.operation? = some op)
    (hcut : m.CutBy E c) : ∃ outcome, op.outcome? c.values m.host = some outcome ∧
      FileSystem.Cuts m.host.files outcome.2 m.host.directory.current := by
  unfold CutBy at hcut
  rw [(host_of_operation hop).2] at hcut
  cases houtcome : op.outcome? c.values m.host with
  | none =>
      rw [houtcome] at hcut
      exact absurd hcut (FileSystem.not_cuts_of_growsTo (FileSystem.GrowsTo.refl _))
  | some outcome =>
      rw [houtcome] at hcut
      exact ⟨outcome, rfl, hcut⟩

/-- What a removal comes to: nothing has changed, or something has gone from where it leads. -/
theorem removes_of_outcome {op : FileOperation} (hop : c.command.operation? = some op)
    (hc : c.IsRemoval) (habs : m.host.directory.current.isAbsolute = true)
    {outcome : FileCommand.Outcome} (houtcome : op.outcome? c.values m.host = some outcome) :
    outcome.2 = m.host.files ∨
      ∃ l, c.Takes m.host l ∧ FileSystem.Removes m.host.files l outcome.2 := by
  have habs' : ∀ raw, (m.host.resolve raw).isAbsolute = true := fun raw =>
    WorkingDirectory.isAbsolute_resolve habs _
  rcases id hc with hcommand | hcommand
  · rw [hcommand] at hop
    cases hop
    obtain ⟨raw, hraw, rfl⟩ := Option.map_eq_some_iff.mp houtcome
    refine (FileCommand.removes_removeAny _ (habs' raw)).imp_right ?_
    rintro ⟨l, hfind, hremoves⟩
    exact ⟨l, .removed hc hraw hfind, hremoves⟩
  · rw [hcommand] at hop
    cases hop
    obtain ⟨raw, hraw, rfl⟩ := Option.map_eq_some_iff.mp houtcome
    refine (FileCommand.removes_removeDirectory _ (habs' raw)).imp_right ?_
    rintro ⟨l, hfind, hremoves⟩
    exact ⟨l, .removed hc hraw hfind, hremoves⟩

/-- What a move comes to: whatever has changed is at or below one of its entries. -/
theorem takes_of_move {op : FileOperation} (hop : c.command.operation? = some op) (hc : c.IsMove)
    {outcome : FileCommand.Outcome} (houtcome : op.outcome? c.values m.host = some outcome)
    {l : Location} (hcut : ¬ m.host.files.root.KeepsAt outcome.2.root l) :
    ∃ t, c.Takes m.host t ∧ t <+: l := by
  have hmove : ∀ {source target},
      Arguments.text? c.values 0 = some source → Arguments.text? c.values 1 = some target →
      ¬ m.host.files.root.KeepsAt (FileCommand.move m.host.files (m.host.resolve source)
        (m.host.resolve target)).2.root l → ∃ t, c.Takes m.host t ∧ t <+: l := by
    intro source target hsource htarget hcut
    obtain ⟨d, n, slash, hparent | hparent, hunder⟩ := FileCommand.cut_of_move _ hcut
    · exact ⟨d ++ [n], .moved hc (by decide) hsource hparent, hunder⟩
    · exact ⟨d ++ [n], .moved hc (by decide) htarget hparent, hunder⟩
  rcases id hc with hcommand | hcommand
  · rw [hcommand] at hop
    cases hop
    obtain ⟨source, hsource, hrest⟩ := Option.bind_eq_some_iff.mp houtcome
    obtain ⟨target, htarget, rfl⟩ := Option.map_eq_some_iff.mp hrest
    rcases FileCommand.rename_snd m.host.files with hsame | hmoved
    · rw [hsame] at hcut
      exact absurd (.of_kind rfl) hcut
    · rw [hmoved] at hcut
      exact hmove hsource htarget hcut
  · rw [hcommand] at hop
    cases hop
    obtain ⟨source, hsource, hrest⟩ := Option.bind_eq_some_iff.mp houtcome
    obtain ⟨target, htarget, rfl⟩ := Option.map_eq_some_iff.mp hrest
    exact hmove hsource htarget hcut

/-- Only a call that can take away something at or above a place that the lookup of the working
directory passes can cut the directory off. -/
theorem takes_of_cutBy (hc : c.IsNative) (habs : m.host.directory.current.isAbsolute = true)
    (hdir : m.InDirectory) (hcut : m.CutBy E c) :
    ∃ t, c.Takes m.host t ∧ ∃ l ∈ m.host.files.passes m.host.directory.current, t <+: l := by
  rcases hc with hcd | hfile
  · unfold CutBy afterCall at hcut
    rw [hcd, Command.invoke, Command.onHost] at hcut
    dsimp only at hcut
    rw [(DirectoryCommand.of_changeDirectory c.values m.host).1] at hcut
    exact absurd hcut (FileSystem.not_cuts_of_growsTo (FileSystem.GrowsTo.refl _))
  obtain ⟨op, hop⟩ := Option.isSome_iff_exists.mp hfile
  obtain ⟨outcome, houtcome, l, hl, hgone⟩ := outcome_of_cutBy hop hcut
  by_cases hremoval : c.IsRemoval
  · rcases removes_of_outcome hop hremoval habs houtcome with hsame | ⟨t, htakes, hremoves⟩
    · rw [hsame] at hgone
      exact absurd (.of_kind rfl) hgone
    · by_cases hunder : t <+: l
      · exact ⟨t, htakes, l, hl, hunder⟩
      · exact absurd (hremoves.keepsAt l hunder) hgone
  by_cases hmove : c.IsMove
  · obtain ⟨t, htakes, hunder⟩ := takes_of_move hop hmove houtcome hgone
    exact ⟨t, htakes, l, hl, hunder⟩
  -- The other file commands add to the files, or remove what leads to no directory.
  exfalso
  have hcut' : FileSystem.Cuts m.host.files outcome.2 m.host.directory.current := ⟨l, hl, hgone⟩
  obtain ⟨command, values⟩ := c
  cases command with
  | createFile =>
      cases hop
      obtain ⟨raw, -, rfl⟩ := Option.map_eq_some_iff.mp houtcome
      exact FileSystem.not_cuts_of_growsTo (FileCommand.growsTo_createFile _ _) hcut'
  | createDirectory =>
      cases hop
      obtain ⟨raw, -, rfl⟩ := Option.map_eq_some_iff.mp houtcome
      exact FileSystem.not_cuts_of_growsTo (FileCommand.growsTo_createDirectory _ _) hcut'
  | removeFile =>
      cases hop
      obtain ⟨raw, -, rfl⟩ := Option.map_eq_some_iff.mp houtcome
      exact FileCommand.not_cuts_removeFile _ habs hdir hcut'
  | copy =>
      cases hop
      obtain ⟨source, -, hrest⟩ := Option.bind_eq_some_iff.mp houtcome
      obtain ⟨target, -, rfl⟩ := Option.map_eq_some_iff.mp hrest
      exact FileSystem.not_cuts_of_growsTo (FileCommand.growsTo_copy _ _ _) hcut'
  | removeDirectory => exact hremoval (Or.inr rfl)
  | removeAny => exact hremoval (Or.inl rfl)
  | rename => exact hmove (Or.inl rfl)
  | move => exact hmove (Or.inr rfl)
  | print | read | execute | quit | version | changeDirectory | listFiles | runSync | help =>
      cases hop

/-- A removal that cuts the working directory off loses it. -/
theorem not_inDirectory_of_cutBy (hc : c.IsRemoval)
    (habs : m.host.directory.current.isAbsolute = true) (hcut : m.CutBy E c) :
    ¬ (m.afterCall E c).InDirectory := by
  have hfile : c.command.operation?.isSome := by
    rcases hc with hcommand | hcommand
    · rw [hcommand]
      rfl
    · rw [hcommand]
      rfl
  obtain ⟨op, hop⟩ := Option.isSome_iff_exists.mp hfile
  obtain ⟨outcome, houtcome, hcut'⟩ := outcome_of_cutBy hop hcut
  obtain ⟨hdirectory, hfiles⟩ := host_of_operation (E := E) (m := m) hop
  unfold InDirectory
  rw [hdirectory, hfiles, houtcome, Bool.not_eq_true]
  rcases removes_of_outcome hop hc habs houtcome with hsame | ⟨t, -, hremoves⟩
  · rw [hsame] at hcut'
    exact absurd hcut' (FileSystem.not_cuts_of_growsTo (FileSystem.GrowsTo.refl _))
  · exact FileSystem.not_isDirectory_of_cuts habs hremoves.shrinks hcut'

/-! ## Runs -/

theorem after_concat (E : Engine ε χ) (m : Machine ε) (calls : List Call) (c : Call) :
    m.after E (calls ++ [c]) = (m.after E calls).afterCall E c :=
  List.foldl_concat ..

theorem isAbsolute_after {calls : List Call} (hnative : ∀ c ∈ calls, c.IsNative)
    (habs : m.host.directory.current.isAbsolute = true) :
    (m.after E calls).host.directory.current.isAbsolute = true := by
  induction calls using List.reverseRecOn with
  | nil => exact habs
  | append_singleton calls c ih =>
      rw [after_concat]
      exact isAbsolute_afterCall (hnative c (by simp)) (ih fun c hc => hnative c (by simp [hc]))

/-- A run none of whose calls cuts the working directory off ends in a directory. -/
theorem inDirectory_after {calls : List Call} (hnative : ∀ c ∈ calls, c.IsNative)
    (habs : m.host.directory.current.isAbsolute = true) (hdir : m.InDirectory)
    (hkept : ∀ before c, before ++ [c] <+: calls → ¬ (m.after E before).CutBy E c) :
    (m.after E calls).InDirectory := by
  induction calls using List.reverseRecOn with
  | nil => exact hdir
  | append_singleton calls c ih =>
      have hnative' : ∀ c ∈ calls, c.IsNative := fun c hc => hnative c (by simp [hc])
      have hbefore := ih hnative' fun before c' hpre =>
        hkept before c' (hpre.trans (List.prefix_append calls [c]))
      rw [after_concat]
      exact inDirectory_afterCall (hnative c (by simp)) (isAbsolute_after hnative' habs) hbefore
        (hkept calls c (List.prefix_refl _))

end Machine

end LuaShell
