import LuaShell.Command.Basic
import LuaShell.Proofs.Path.WorkingDirectory
import LuaShell.Proofs.Process.SameProgram
import LuaShell.Proofs.Script.Leaving

/-!
# Commands and the process directory

Every path that a command takes goes through the working directory of the shell, and is
absolute as long as that is.  So what a command answers and what it does are independent
of where the process is: they are what they would be if the process had no directory at
all.  A command that executes script files reads the same files, and is independent as far
as the scripts are.
-/

namespace LuaShell

open Lua (Value)

namespace FileCommand

/-! ## Operations on files -/

section Operations

variable {fs : FileSystem} {p q : Path}

theorem single_detached (made : Except IoError FileSystem) :
    single fs.detached (made.map FileSystem.detached) =
      (single fs made).map id FileSystem.detached := by
  cases made <;> rfl

theorem several_detached (outcome : FileSystem.Outcome) :
    several (outcome.map id FileSystem.detached) =
      (several outcome).map id FileSystem.detached := by
  rcases outcome with ⟨e | _, fs⟩ <;> rfl

section OnePath

variable (hp : p.isAbsolute = true)

include hp

theorem createFile_detached :
    createFile fs.detached p = (createFile fs p).map id FileSystem.detached := by
  unfold createFile
  rw [FileSystem.createFile_detached hp]
  rcases fs.createFile p with e | fs'
  · dsimp only [Except.map]
    split <;> rfl
  · rfl

theorem createDirectory_detached :
    createDirectory fs.detached p = (createDirectory fs p).map id FileSystem.detached := by
  unfold createDirectory
  rw [FileSystem.makeDirectory_detached hp, FileSystem.isDirectory_detached hp]
  rcases fs.makeDirectory p with e | fs'
  · dsimp only [Except.map]
    split <;> rfl
  · rfl

theorem removeFile_detached :
    removeFile fs.detached p = (removeFile fs p).map id FileSystem.detached := by
  unfold removeFile
  rw [FileSystem.pathExists_detached hp, FileSystem.isDirectory_detached hp,
    FileSystem.removeFile_detached hp, single_detached]
  split
  · rfl
  · split <;> rfl

theorem removeDirectory_detached :
    removeDirectory fs.detached p = (removeDirectory fs p).map id FileSystem.detached := by
  unfold removeDirectory
  rw [FileSystem.pathExists_detached hp, FileSystem.isDirectory_detached hp,
    FileSystem.removeTree_detached hp, several_detached]
  split
  · rfl
  · split <;> rfl

theorem removeAny_detached :
    removeAny fs.detached p = (removeAny fs p).map id FileSystem.detached := by
  unfold removeAny
  rw [FileSystem.lstat_detached hp, FileSystem.removeTree_detached hp,
    FileSystem.removeFile_detached hp, single_detached, several_detached]
  rcases fs.lstat p with e | node
  · rfl
  · cases node <;> rfl

end OnePath

section TwoPaths

variable (hp : p.isAbsolute = true) (hq : q.isAbsolute = true)

include hp hq

theorem move_detached : move fs.detached p q = (move fs p q).map id FileSystem.detached := by
  unfold move
  rw [FileSystem.rename_detached hp hq, single_detached]

theorem rename_detached : rename fs.detached p q = (rename fs p q).map id FileSystem.detached := by
  unfold rename
  rw [FileSystem.rename_detached hp hq, single_detached]
  split <;> rfl

theorem copy_detached : copy fs.detached p q = (copy fs p q).map id FileSystem.detached := by
  unfold copy
  rw [FileSystem.isDirectory_detached hp, FileSystem.copyTree_detached hp hq,
    FileSystem.copyFile_detached hp hq, single_detached, several_detached]
  split
  · split <;> rfl
  · rfl

end TwoPaths

end Operations

end FileCommand

/-! ## Reports of a host -/

namespace Host

variable (h : Host)

@[simp] theorem detached_files : h.detached.files = h.files.detached := rfl

@[simp] theorem detached_directory : h.detached.directory = h.directory := rfl

@[simp] theorem detached_resolve (raw : String) : h.detached.resolve raw = h.resolve raw := rfl

@[simp] theorem detached_record (level : Log.Level) (target message : String) :
    h.detached.record level target message = (h.record level target message).detached := by
  unfold record
  rw [show h.detached.log = h.log from rfl]
  split <;> rfl

@[simp] theorem detached_settle (answer : Except CommandError Unit) :
    h.detached.settle answer = (h.settle answer).map id detached := by
  cases answer with
  | ok _ => rfl
  | error e =>
      simp only [settle, detached_record]
      rfl

theorem settle_directory (answer : Except CommandError Unit) :
    (h.settle answer).2.directory = h.directory := by
  cases answer with
  | ok _ => rfl
  | error e => exact record_directory _ _ _ _

end Host

/-- A machine whose process has no directory. -/
def Machine.detached {ε : Type} (m : Machine ε) : Machine ε :=
  { m with host := m.host.detached }

/-! ## Commands on the host -/

/-- What something does on a host is independent of the process directory, and the working
directory is absolute after it. -/
structure Host.IndependentAt {α : Type} (f : Host → α × Host) (h : Host) : Prop where
  same : f h.detached = (f h).map id Host.detached
  absolute : (f h).2.directory.current.isAbsolute = true

section OnHost

variable {h : Host} (habs : h.directory.current.isAbsolute = true)

include habs

theorem Host.isAbsolute_resolve (raw : String) : (h.resolve raw).isAbsolute = true :=
  WorkingDirectory.isAbsolute_resolve habs _

theorem FileCommand.apply_independent {operation : FileSystem → FileCommand.Outcome}
    (hoperation : operation h.files.detached = (operation h.files).map id FileSystem.detached) :
    Host.IndependentAt (FileCommand.apply · operation) h := by
  constructor
  · unfold FileCommand.apply
    rw [Host.detached_files, hoperation]
    exact Host.detached_settle { h with files := (operation h.files).2 } _
  · unfold FileCommand.apply
    rw [Host.settle_directory]
    exact habs

theorem RunCommand.quit_independent (values : List Value) :
    Host.IndependentAt (RunCommand.quit values) h := by
  unfold RunCommand.quit
  cases RunCommand.quitCode ⟨"quit", values⟩ <;> exact ⟨rfl, habs⟩

theorem GeneralCommand.help_independent : Host.IndependentAt GeneralCommand.help h :=
  ⟨rfl, habs⟩

theorem FileCommand.onPath_independent {command : String}
    {operation : FileSystem → Path → FileCommand.Outcome}
    (hoperation : ∀ {fs : FileSystem} {p : Path}, p.isAbsolute = true →
      operation fs.detached p = (operation fs p).map id FileSystem.detached) (values : List Value) :
    Host.IndependentAt (FileCommand.onPath command operation values) h := by
  unfold FileCommand.onPath
  rcases (Arguments.mk command values).string 0 "path" with e | raw
  · exact ⟨rfl, habs⟩
  · have hraw := @hoperation h.files _ (Host.isAbsolute_resolve habs raw)
    exact ⟨(apply_independent habs hraw).same, (apply_independent habs hraw).absolute⟩

theorem FileCommand.onPaths_independent {command : String}
    {operation : FileSystem → Path → Path → FileCommand.Outcome}
    (hoperation : ∀ {fs : FileSystem} {p q : Path}, p.isAbsolute = true → q.isAbsolute = true →
      operation fs.detached p q = (operation fs p q).map id FileSystem.detached)
    (values : List Value) :
    Host.IndependentAt (FileCommand.onPaths command operation values) h := by
  unfold FileCommand.onPaths
  rcases hsource : (Arguments.mk command values).string 0 "from" with e | source
  · simp only [hsource]
    exact ⟨rfl, habs⟩
  rcases htarget : (Arguments.mk command values).string 1 "to" with e | target
  · simp only [hsource, htarget]
    exact ⟨rfl, habs⟩
  · simp only [hsource, htarget]
    have hboth := @hoperation h.files _ _ (Host.isAbsolute_resolve habs source)
      (Host.isAbsolute_resolve habs target)
    exact ⟨(apply_independent habs hboth).same, (apply_independent habs hboth).absolute⟩

theorem GeneralCommand.read_independent (values : List Value) :
    Host.IndependentAt (GeneralCommand.read values) h := by
  unfold GeneralCommand.read
  by_cases hlength : values.length ≠ 1
  · simp only [if_pos hlength]
    exact ⟨rfl, habs⟩
  rcases hraw : (Arguments.mk "read" values).string 0 "filename" with e | raw
  · simp only [if_neg hlength, hraw]
    exact ⟨rfl, habs⟩
  simp only [if_neg hlength, hraw]
  have hfile : h.files.detached.readFile (h.resolve raw) = h.files.readFile (h.resolve raw) :=
    FileSystem.readFile_detached (Host.isAbsolute_resolve habs raw)
  constructor
  · simp only [Host.detached_files, Host.detached_resolve, hfile]
    rcases h.files.readFile (h.resolve raw) with e | bytes <;> rfl
  · rcases h.files.readFile (h.resolve raw) with e | bytes <;> exact habs

/-- Where the directory goes, and whether it goes anywhere, is looked up by an absolute path. -/
theorem Host.changeDirectory_independent (target : DirectoryTarget) :
    Host.IndependentAt (·.changeDirectory target) h := by
  cases target with
  | up steps => exact ⟨rfl, WorkingDirectory.isAbsolute_walkUp _ habs⟩
  | path raw =>
      have hcandidate : (h.directory.resolve raw).normalize.isAbsolute = true :=
        (Path.isCanonical_normalize (WorkingDirectory.isAbsolute_resolve habs raw)).isAbsolute
      have hdirectory : h.files.detached.isDirectory (h.directory.resolve raw).normalize =
          h.files.isDirectory (h.directory.resolve raw).normalize :=
        FileSystem.isDirectory_detached hcandidate
      by_cases hthere : h.files.isDirectory (h.directory.resolve raw).normalize = true
      · constructor
        · simp only [Host.changeDirectory, WorkingDirectory.change, Host.detached_files,
            Host.detached_directory, hdirectory, hthere, if_true, Host.detached_record]
          rfl
        · simp only [Host.changeDirectory, WorkingDirectory.change, hthere, if_true]
          exact hcandidate
      · constructor
        · simp only [Host.changeDirectory, WorkingDirectory.change, Host.detached_files,
            Host.detached_directory, hdirectory, hthere, if_false, Bool.false_eq_true]
          rfl
        · simp only [Host.changeDirectory, WorkingDirectory.change, hthere, if_false,
            Bool.false_eq_true]
          exact habs

theorem DirectoryCommand.changeDirectory_independent (values : List Value) :
    Host.IndependentAt (DirectoryCommand.changeDirectory values) h := by
  unfold DirectoryCommand.changeDirectory
  rcases harg : (Arguments.mk "cd" values).get? 0 with _ | v
  · simp only [harg]
    exact ⟨rfl, habs⟩
  rcases htarget : directoryTarget ⟨"cd", values⟩ v with e | target
  · simp only [harg, htarget]
    exact ⟨rfl, habs⟩
  simp only [harg, htarget]
  have hchange := Host.changeDirectory_independent habs target
  constructor
  · simp only [hchange.same, Prod.map, Host.detached_settle, id]
  · rw [Host.settle_directory]
    exact hchange.absolute

end OnHost

/-! ## Commands on the machine -/

section OnMachine

variable {ε χ : Type}

@[simp] theorem Machine.detached_host (m : Machine ε) : m.detached.host = m.host.detached := rfl

/-- What something does on a machine is independent of the process directory, and the working
directory is absolute after it. -/
structure Machine.IndependentAt {α : Type} (f : Machine ε → α × Machine ε) (m : Machine ε) :
    Prop where
  same : f m.detached = (f m).map id Machine.detached
  absolute : (f m).2.host.directory.current.isAbsolute = true

/-- Tables are a matter of the engine alone: they can be made and looked at on any host. -/
structure Engine.TablesApart (E : Engine ε χ) : Prop where
  makeTable : ∀ es (m : Machine ε) (h : Host), E.makeTable es { m with host := h } =
    ((E.makeTable es m).1, { (E.makeTable es m).2 with host := h })
  entries : ∀ v (m : Machine ε) (h : Host), E.entries v { m with host := h } = E.entries v m

variable {E : Engine ε χ} {m : Machine ε}

theorem Command.onHost_independent {f : Host → CommandResult}
    (hf : Host.IndependentAt f m.host) : Machine.IndependentAt (Command.onHost · f) m := by
  constructor
  · simp only [Command.onHost, Machine.detached_host, hf.same]
    rfl
  · exact hf.absolute

/-! ### Listings -/

namespace DirectoryCommand

theorem printEntries_detached (entries : List Entry) (h : Host) :
    printEntries h.detached entries = (printEntries h entries).detached := by
  unfold printEntries
  induction entries generalizing h with
  | nil => rfl
  | cons e entries ih =>
      rw [List.foldl_cons, List.foldl_cons, ← ih]
      rfl

theorem printEntries_directory (entries : List Entry) (h : Host) :
    (printEntries h entries).directory = h.directory := by
  unfold printEntries
  induction entries generalizing h with
  | nil => rfl
  | cons e entries ih => exact ih _

theorem makeTable_host (hE : E.TablesApart) (es : List (Value × Value)) (m : Machine ε) :
    (E.makeTable es m).2.host = m.host :=
  congrArg (·.2.host) (hE.makeTable es m m.host)

theorem makeTable_detached (hE : E.TablesApart) (es : List (Value × Value)) (m : Machine ε) :
    E.makeTable es m.detached = (E.makeTable es m).map id Machine.detached := by
  have hhost := makeTable_host hE es m
  refine (hE.makeTable es m m.host.detached).trans ?_
  rw [← hhost]
  rfl

theorem entryTables_independent (hE : E.TablesApart) (entries : List Entry) (m : Machine ε) :
    entryTables E entries m.detached = (entryTables E entries m).map id Machine.detached ∧
      (entryTables E entries m).2.host = m.host := by
  induction entries generalizing m with
  | nil => exact ⟨rfl, rfl⟩
  | cons e entries ih =>
      simp only [entryTables, makeTable_detached hE, Prod.map, id, (ih _).1, (ih _).2,
        makeTable_host hE, and_self]

theorem listFiles_independent (hE : E.TablesApart)
    (habs : m.host.directory.current.isAbsolute = true) (values : List Value) :
    Machine.IndependentAt (listFiles E values) m := by
  have hlist : listEntries m.host.files.detached m.host.directory.current =
      listEntries m.host.files m.host.directory.current := by
    simp only [listEntries, FileSystem.readDirectory_detached habs]
  unfold listFiles
  rcases hentries : listEntries m.host.files m.host.directory.current with e | entries
  · constructor
    · simp only [Machine.detached_host, Host.detached_files, Host.detached_directory, hlist,
        hentries, Host.detached_settle]
      rfl
    · simp only [hentries, Host.settle_directory, habs]
  by_cases hflag : (Arguments.mk "ls" values).flag 0 = true
  · constructor
    · simp only [Machine.detached_host, Host.detached_files, Host.detached_directory, hlist,
        hentries, hflag, if_true, Machine.mapHost, printEntries_detached]
      rfl
    · simp only [hentries, hflag, if_true, Machine.mapHost, printEntries_directory, habs]
  · have htables := entryTables_independent hE entries m
    constructor
    · simp only [Machine.detached_host, Host.detached_files, Host.detached_directory, hlist,
        hentries, hflag, if_false, htables.1, Prod.map, id, makeTable_detached hE,
        Bool.false_eq_true]
    · simp only [hentries, hflag, if_false, makeTable_host hE, htables.2, habs,
        Bool.false_eq_true]

end DirectoryCommand

/-! ### Script files -/

namespace RunCommand

variable (E) in
/-- None of the units that a call of `execute` comes to run is itself dependent on the process
directory, on the machine on which it is run. -/
def UnitsIndependent (a : Arguments) (m : Machine ε) : Prop :=
  ∀ i raw source before, UnitRun.Executed E a m i before → a.string i "filename" = .ok raw →
    before.host.files.readText (before.host.resolve raw) = .ok source →
    Machine.IndependentAt (E.execute source raw .quiet) (executing raw before)

theorem executeFile_independent {raw : String} (habs : m.host.directory.current.isAbsolute = true)
    (hunit : ∀ source, m.host.files.readText (m.host.resolve raw) = .ok source →
      Machine.IndependentAt (E.execute source raw .quiet) (executing raw m)) :
    Machine.IndependentAt (executeFile E raw) m := by
  have htext : m.host.files.detached.readText (m.host.resolve raw) =
      m.host.files.readText (m.host.resolve raw) :=
    FileSystem.readText_detached (Host.isAbsolute_resolve habs raw)
  rcases hsource : m.host.files.readText (m.host.resolve raw) with e | source
  · constructor
    · simp only [executeFile, Machine.detached_host, Host.detached_files, Host.detached_resolve,
        htext, hsource]
      rfl
    · simp only [executeFile, hsource, habs]
  · have hindependent := hunit source hsource
    have hexecuting : executing raw m.detached = (executing raw m).detached := by
      simp only [executing, Machine.mapHost, Machine.detached_host, Host.detached_resolve,
        Host.detached_record]
      rfl
    have hsame := hexecuting ▸ hindependent.same
    have habsolute := hindependent.absolute
    rcases hresult : E.execute source raw .quiet (executing raw m) with ⟨answer, after⟩
    rw [hresult] at hsame habsolute
    have hfile : executeFile E raw m = (afterScript raw answer, after) := by
      simp only [executeFile_of_text hsource, hresult]
    constructor
    · have htext' : m.detached.host.files.readText (m.detached.host.resolve raw) = .ok source := by
        simpa using htext.trans hsource
      rw [hfile, executeFile_of_text htext', hsame]
      rfl
    · rw [hfile]
      exact habsolute

theorem executeFrom_independent {a : Arguments} {start : Machine ε} {i n : Nat}
    (hunits : UnitsIndependent E a start) (hfirst : UnitRun.Executed E a start i m)
    (habs : m.host.directory.current.isAbsolute = true) :
    Machine.IndependentAt (executeFrom E a n i) m := by
  induction n generalizing i m with
  | zero => exact ⟨rfl, habs⟩
  | succ n ih =>
      rcases hraw : a.string i "filename" with e | raw
      · constructor
        · simp only [executeFrom, hraw]
          rfl
        · simp only [executeFrom, hraw, habs]
      have hfile := executeFile_independent habs (hunits i raw · m hfirst hraw)
      have hsame := hfile.same
      have habsolute := hfile.absolute
      rcases hresult : executeFile E raw m with ⟨e | _, after⟩
      · rw [hresult] at hsame habsolute
        constructor
        · simp only [executeFrom, hraw, hsame, hresult, Prod.map, id]
        · simp only [executeFrom, hraw, hresult, habsolute]
      · rw [hresult] at hsame habsolute
        -- A script may have moved the working directory, but has left it absolute.
        have hrest := ih (.more hfirst hraw hresult) habsolute
        constructor
        · simp only [executeFrom, hraw, hsame, hresult, Prod.map, id]
          exact hrest.same
        · simp only [executeFrom, hraw, hresult]
          exact hrest.absolute

theorem execute_independent {values : List Value}
    (habs : m.host.directory.current.isAbsolute = true)
    (hunits : UnitsIndependent E ⟨"execute", values⟩ m) :
    Machine.IndependentAt (execute E values) m := by
  unfold execute
  rcases hzero : (Arguments.mk "execute" values).get? 0 with _ | v
  · simp only [hzero]
    exact ⟨rfl, habs⟩
  · simp only [hzero]
    exact executeFrom_independent hunits .none habs

end RunCommand

end OnMachine

end LuaShell
