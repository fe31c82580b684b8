import LuaShell.Proofs.Command.ProcessDirectory

/-!
# Two processes in different directories

A request for a program is the same request wherever the process is.  Whoever notes or
refuses requests answers alike, and the system starts the same program if all paths are
absolute that are gone through to load it.  Put together, a command has one outcome in two
processes that differ in their directory alone (`invoke_same_outcome`).  The one way out is
a program that is named by a relative path and of which there is no file in the working
directory; its name is handed on as it was typed (`spawn_from_two_directories`).
-/

namespace LuaShell

open Lua (Value)

/-! ## Programs -/

namespace Host

/-- The host on which a request is dispatched: what is asked for has been recorded. -/
def launching (r : Request) (h : Host) : Host :=
  let found := r.resolveProgram h.directory h.files
  let h := match r.localProgram? h.directory h.files with
    | some here => h.record .debug "luash::process" s!"using local executable {here.display}"
    | none => h
  h.record .debug "luash::core::session"
    s!"running {found.program} {Text.quoteList found.arguments} via {h.spawner.name}"

theorem spawn_eq (r : Request) (h : Host) :
    h.spawn r = (h.launching r).dispatch (r.resolveProgram h.directory h.files) := rfl

theorem launching_kept (r : Request) (h : Host) :
    (h.launching r).files = h.files ∧ (h.launching r).directory = h.directory ∧
      (h.launching r).spawner = h.spawner := by
  unfold launching
  cases r.localProgram? h.directory h.files with
  | none => simp
  | some here => simp

variable {h : Host} {r : Request}

theorem launching_detached (habs : h.directory.current.isAbsolute = true) :
    h.detached.launching r = (h.launching r).detached := by
  unfold launching
  simp only [detached_files, detached_directory, Request.localProgram?_detached habs,
    Request.resolveProgram_detached habs]
  cases r.localProgram? h.directory h.files with
  | none => exact detached_record _ _ _ _
  | some here =>
      simp only [detached_record]
      rfl

/-- Whoever notes or refuses requests does so independently of the process directory. -/
theorem dispatch_independent (habs : h.directory.current.isAbsolute = true)
    (hspawner : h.spawner ≠ .posix) : IndependentAt (·.dispatch r) h := by
  have hkept : h.detached.spawner = h.spawner := rfl
  cases hwho : h.spawner with
  | posix => exact absurd hwho hspawner
  | unsupported =>
      constructor
      · simp only [dispatch, hkept, hwho]
        rfl
      · simp only [dispatch, hwho, habs]
  | recording answer =>
      constructor
      · simp only [dispatch, hkept, hwho]
        cases answer <;> rfl
      · cases answer <;> simp only [dispatch, hwho, habs]

/-- A program that the system refuses to start from an absolute path leaves no other trace. -/
theorem dispatch_independent_of_refused (habs : h.directory.current.isAbsolute = true)
    (hspawner : h.spawner = .posix) {e : Errno}
    (hsame : (Program.start (r.program :: r.arguments) h.detached).1 =
      (Program.start (r.program :: r.arguments) h).1)
    (hrefused : (Program.start (r.program :: r.arguments) h).1 = .error e) :
    IndependentAt (·.dispatch r) h := by
  have hkept : h.detached.spawner = .posix := hspawner
  have hstart : Program.start (r.program :: r.arguments) h = (.error e, h) :=
    Prod.ext hrefused (Program.start_snd _ _)
  have hstart' : Program.start (r.program :: r.arguments) h.detached = (.error e, h.detached) :=
    Prod.ext (hsame.trans hrefused) (Program.start_snd _ _)
  -- A text that no program can be given is refused before any file is looked for.
  cases htext : Launch.offending? (r.program :: r.arguments) with
  | some text =>
      constructor
      · simp only [dispatch, hkept, hspawner, Launch.launch, htext]
        rfl
      · simp only [dispatch, hspawner, Launch.launch, htext, habs]
  | none =>
      constructor
      · simp only [dispatch, hkept, hspawner, Launch.launch, htext, Program.platform, hstart,
          hstart']
        rfl
      · simp only [dispatch, hspawner, Launch.launch, htext, Program.platform, hstart, habs]

/-- A request is the same request wherever the process is, so it is carried out independently of
that if it is so on the host on which it is dispatched. -/
theorem spawn_independent (habs : h.directory.current.isAbsolute = true)
    (hdispatch : IndependentAt (·.dispatch (r.resolveProgram h.directory h.files))
      (h.launching r)) :
    IndependentAt (·.spawn r) h := by
  constructor
  · simp only [spawn_eq, launching_detached habs, detached_directory, detached_files,
      Request.resolveProgram_detached habs]
    exact hdispatch.same
  · exact hdispatch.absolute

variable {name : String} (hslash : name.toList.contains '/' = true)

include hslash

theorem start_launching_detached
    (hanchored : Program.Anchored h.files Program.maxInterpreters (Path.ofString name))
    (arguments : List String) :
    (Program.start (name :: arguments) (h.launching r).detached).1 =
      (Program.start (name :: arguments) (h.launching r)).1 :=
  Program.start_detached hslash ((launching_kept r h).1.symm ▸ hanchored) arguments

/-- Two processes start the same program for a request, or are refused it for the same cause. -/
theorem start_launching_same {h' : Host} (hsame : h.detached = h'.detached)
    (habs : h.directory.current.isAbsolute = true) (habs' : h'.directory.current.isAbsolute = true)
    (hanchored : Program.Anchored h.files Program.maxInterpreters (Path.ofString name))
    (hanchored' : Program.Anchored h'.files Program.maxInterpreters (Path.ofString name))
    (arguments : List String) :
    (Program.start (name :: arguments) (h.launching r)).1 =
      (Program.start (name :: arguments) (h'.launching r)).1 := by
  have hlaunching : (h.launching r).detached = (h'.launching r).detached := by
    rw [← launching_detached habs, ← launching_detached habs', hsame]
  rw [← start_launching_detached hslash hanchored, hlaunching,
    start_launching_detached hslash hanchored']

end Host

namespace RunCommand

variable {ε χ : Type} {E : Engine ε χ} {m : Machine ε}

theorem programArguments_detached (hE : E.TablesApart) (a : Arguments) (m : Machine ε) :
    programArguments E a m.detached = programArguments E a m := by
  unfold programArguments
  split
  · rw [show E.entries _ m.detached = E.entries _ m from hE.entries _ m m.host.detached]
  · rfl
  · rfl

theorem runSync_independent (hE : E.TablesApart) {values : List Value}
    (habs : m.host.directory.current.isAbsolute = true)
    (hspawn : ∀ program arguments, programText? ⟨"runSync", values⟩ = some (.ok program) →
      programArguments E ⟨"runSync", values⟩ m = .ok arguments →
      Host.IndependentAt
        (·.spawn ⟨program, arguments, (Arguments.mk "runSync" values).flag 2⟩) m.host) :
    Machine.IndependentAt (runSync E values) m := by
  have harguments := programArguments_detached hE ⟨"runSync", values⟩ m
  unfold runSync
  rcases hprogram : programText? ⟨"runSync", values⟩ with _ | (e | program)
  · simp only [hprogram]
    exact ⟨rfl, habs⟩
  · simp only [hprogram]
    exact ⟨rfl, habs⟩
  rcases hlist : programArguments E ⟨"runSync", values⟩ m with e | arguments
  · constructor
    · simp only [hprogram, harguments, hlist]
      rfl
    · simp only [hprogram, hlist, habs]
  have hhost := hspawn program arguments hprogram hlist
  have hsame := hhost.same
  have habsolute := hhost.absolute
  rcases hresult : m.host.spawn ⟨program, arguments, (Arguments.mk "runSync" values).flag 2⟩ with
    ⟨e | exit, h⟩
  · rw [hresult] at hsame habsolute
    constructor
    · simp only [hprogram, harguments, hlist, hresult, Machine.detached_host, hsame, Prod.map, id]
      rfl
    · simp only [hprogram, hlist, hresult]
      exact habsolute
  · rw [hresult] at hsame habsolute
    constructor
    · simp only [hprogram, harguments, hlist, hresult, Machine.detached_host, hsame, Prod.map, id]
      rfl
    · simp only [hprogram, hlist, hresult]
      exact habsolute

end RunCommand

/-! ## Two processes -/

namespace Command

variable {ε χ : Type} {E : Engine ε χ} {m m' : Machine ε}

/-- Two outcomes are the same but for where the process is. -/
def SameOutcome {α : Type} (r r' : α × Machine ε) : Prop :=
  r.1 = r'.1 ∧ r.2.detached = r'.2.detached

theorem sameOutcome_of_independent {α : Type} {f : Machine ε → α × Machine ε}
    (hsame : m.detached = m'.detached) (hf : Machine.IndependentAt f m)
    (hf' : Machine.IndependentAt f m') : SameOutcome (f m) (f m') := by
  have hboth : (f m).map id Machine.detached = (f m').map id Machine.detached := by
    rw [← hf.same, ← hf'.same, hsame]
  exact Prod.ext_iff.mp hboth

theorem host_of_detached_eq (hsame : m.detached = m'.detached) :
    m'.host.directory = m.host.directory ∧ m'.host.spawner = m.host.spawner ∧
      m'.host.files.detached = m.host.files.detached := by
  have hhosts : m'.host.detached = m.host.detached := congrArg Machine.host hsame.symm
  have hdirectory := congrArg Host.directory hhosts
  have hspawner := congrArg Host.spawner hhosts
  exact ⟨hdirectory, hspawner, congrArg Host.files hhosts⟩

/-- The commands that run no code of scripts and no programs. -/
theorem invoke_independent (hE : E.TablesApart)
    (habs : m.host.directory.current.isAbsolute = true) {c : Command}
    (hc : c ∉ [.print, .version, .execute, .runSync]) (values : List Value) :
    Machine.IndependentAt (c.invoke E values) m := by
  cases c with
  | print | version | execute | runSync => simp at hc
  | read => exact onHost_independent (GeneralCommand.read_independent habs values)
  | quit => exact onHost_independent (RunCommand.quit_independent habs values)
  | changeDirectory =>
      exact onHost_independent (DirectoryCommand.changeDirectory_independent habs values)
  | listFiles => exact DirectoryCommand.listFiles_independent hE habs values
  | createFile =>
      exact onHost_independent
        (FileCommand.onPath_independent habs FileCommand.createFile_detached _)
  | createDirectory =>
      exact onHost_independent
        (FileCommand.onPath_independent habs FileCommand.createDirectory_detached _)
  | removeFile =>
      exact onHost_independent
        (FileCommand.onPath_independent habs FileCommand.removeFile_detached _)
  | removeDirectory =>
      exact onHost_independent
        (FileCommand.onPath_independent habs FileCommand.removeDirectory_detached _)
  | removeAny =>
      exact onHost_independent
        (FileCommand.onPath_independent habs FileCommand.removeAny_detached _)
  | rename =>
      exact onHost_independent (FileCommand.onPaths_independent habs FileCommand.rename_detached _)
  | move =>
      exact onHost_independent (FileCommand.onPaths_independent habs FileCommand.move_detached _)
  | copy =>
      exact onHost_independent (FileCommand.onPaths_independent habs FileCommand.copy_detached _)
  | help => exact onHost_independent (GeneralCommand.help_independent habs)

/-- The command `runSync` when requests are noted or refused and no program is started. -/
theorem runSync_independent_of_spawner (hE : E.TablesApart)
    (habs : m.host.directory.current.isAbsolute = true) (hspawner : m.host.spawner ≠ .posix)
    (values : List Value) : Machine.IndependentAt (Command.runSync.invoke E values) m := by
  refine RunCommand.runSync_independent hE habs fun program arguments _ _ => ?_
  obtain ⟨-, hdirectory, hwho⟩ := Host.launching_kept
    ⟨program, arguments, (Arguments.mk "runSync" values).flag 2⟩ m.host
  exact Host.spawn_independent habs
    (Host.dispatch_independent (by rw [hdirectory, habs]) (by rwa [hwho]))

/-- A request of the command `runSync` for a program that is refused by the system. -/
theorem runSync_independent_of_refused (hE : E.TablesApart)
    (habs : m.host.directory.current.isAbsolute = true) {values : List Value} {program : String}
    {arguments : List String}
    (hprogram : RunCommand.programText? ⟨"runSync", values⟩ = some (.ok program))
    (hlist : RunCommand.programArguments E ⟨"runSync", values⟩ m = .ok arguments)
    (hspawner : m.host.spawner = .posix) {r : Request}
    (hr : r = ⟨program, arguments, (Arguments.mk "runSync" values).flag 2⟩) {words : List String}
    (hwords : words = (r.resolveProgram m.host.directory m.host.files).program ::
      (r.resolveProgram m.host.directory m.host.files).arguments)
    (hsame : (Program.start words (m.host.launching r).detached).1 =
      (Program.start words (m.host.launching r)).1) {e : Errno}
    (hrefused : (Program.start words (m.host.launching r)).1 = .error e) :
    Machine.IndependentAt (Command.runSync.invoke E values) m := by
  obtain ⟨-, hdirectory, hwho⟩ := Host.launching_kept r m.host
  refine RunCommand.runSync_independent hE habs fun program' arguments' hprogram' hlist' => ?_
  obtain rfl := Except.ok.inj (Option.some.inj (hprogram.symm.trans hprogram'))
  obtain rfl := Except.ok.inj (hlist.symm.trans hlist')
  subst hr hwords
  exact Host.spawn_independent habs (Host.dispatch_independent_of_refused (by rw [hdirectory, habs])
    (hwho.trans hspawner) hsame hrefused)

end Command

end LuaShell
