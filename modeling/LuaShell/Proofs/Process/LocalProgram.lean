import LuaShell.Proofs.Command.TwoProcesses
import LuaShell.Proofs.Path.Textual

/-!
# Files that go before a search

A request is resolved before it is dispatched.  If an entry that is no directory stands where the
working directory puts the program, the request asks for that path instead, as a text with a slash,
and no directory of the search path is tried (`find_of_slash`).  In any other case it is dispatched
as it is.

The path that is asked for is the path of the entry only if that is a text (`spawn_local_first`): a
path with other bytes is asked for by the text that it is shown as, which spells another path.
-/

namespace LuaShell

namespace Request

variable {r : Request} {d : WorkingDirectory} {fs : FileSystem}

/-- An entry that is no directory stands where the working directory puts the program. -/
def StandsLocally (r : Request) (d : WorkingDirectory) (fs : FileSystem) : Prop :=
  ∃ node, fs.stat (d.resolve (Path.ofString r.program)) = .ok node ∧ node.isDir = false

theorem localProgram?_of_standsLocally (hlocal : r.StandsLocally d fs) :
    r.localProgram? d fs = some (d.resolve (Path.ofString r.program)) := by
  obtain ⟨node, hstat, hnode⟩ := hlocal
  simp [localProgram?, FileSystem.pathExists, FileSystem.isDirectory, hstat, hnode, Except.isOk,
    Except.toBool]

theorem localProgram?_of_not_standsLocally (hlocal : ¬ r.StandsLocally d fs) :
    r.localProgram? d fs = none := by
  cases hstat : fs.stat (d.resolve (Path.ofString r.program)) with
  | error e =>
      simp [localProgram?, FileSystem.pathExists, hstat, Except.isOk, Except.toBool]
  | ok node =>
      have hnode : node.isDir = true :=
        Bool.of_not_eq_false fun hfalse => hlocal ⟨node, hstat, hfalse⟩
      simp [localProgram?, FileSystem.isDirectory, hstat, hnode]

theorem resolveProgram_of_standsLocally (hlocal : r.StandsLocally d fs) :
    r.resolveProgram d fs =
      { r with program := (d.resolve (Path.ofString r.program)).display } := by
  rw [resolveProgram, localProgram?_of_standsLocally hlocal]

theorem resolveProgram_of_not_standsLocally (hlocal : ¬ r.StandsLocally d fs) :
    r.resolveProgram d fs = r := by
  rw [resolveProgram, localProgram?_of_not_standsLocally hlocal]

theorem resolveProgram_kept (r : Request) (d : WorkingDirectory) (fs : FileSystem) :
    (r.resolveProgram d fs).arguments = r.arguments ∧
      (r.resolveProgram d fs).verbose = r.verbose := by
  unfold resolveProgram
  cases r.localProgram? d fs <;> exact ⟨rfl, rfl⟩

end Request

namespace Program

/-- A name that is loaded from the path that it spells; no directory is searched for it. -/
structure Unsearched (name : String) : Prop where
  slash : name.toList.contains '/' = true
  loaded : ∀ arguments run, find maxDepth (name :: arguments) run =
    load (find 999) maxInterpreters run.host.files (Path.ofString name) arguments

theorem unsearched_display {p : Path} (habs : p.isAbsolute = true) : Unsearched p.display := by
  have hslash := (Path.display_of_isAbsolute habs).2
  exact ⟨hslash, find_of_slash hslash⟩

end Program

namespace Host

/-- A request is dispatched with its arguments as they are.  If an entry that is no directory stands
where the working directory puts the program, it asks for the text of that path, for which no
directory is searched; this text spells the path exactly if any text does.  Otherwise the request is
dispatched unchanged.  The path is a text if the directory is one that the program is put behind, or
if it was typed as an absolute path. -/
theorem spawn_local_first (r : Request) {h : Host}
    (habs : h.directory.current.isAbsolute = true) :
    let here := h.resolve r.program
    let found := r.resolveProgram h.directory h.files
    h.spawn r = (h.launching r).dispatch found ∧
      found.arguments = r.arguments ∧ found.verbose = r.verbose ∧
      (r.StandsLocally h.directory h.files →
        found.program = here.display ∧ Program.Unsearched found.program ∧
          (Path.ofString found.program = here ↔ here.IsText)) ∧
      (¬ r.StandsLocally h.directory h.files → found = r) ∧
      (here.IsText ↔
        (Path.ofString r.program).isAbsolute = true ∨
        (h.directory.StartsFromHome (Path.ofString r.program) ∧
          ∀ home, h.directory.home = some home → home.IsText) ∨
        (¬ h.directory.StartsFromHome (Path.ofString r.program) ∧
          h.directory.current.IsText)) := by
  intro here found
  obtain ⟨harguments, hverbose⟩ := r.resolveProgram_kept h.directory h.files
  refine ⟨spawn_eq r h, harguments, hverbose, ?_, ?_, ?_⟩
  · intro hlocal
    have hprogram : found.program = here.display :=
      congrArg Request.program (Request.resolveProgram_of_standsLocally hlocal)
    have hhere : here.isAbsolute = true := WorkingDirectory.isAbsolute_resolve habs _
    rw [hprogram]
    exact ⟨rfl, Program.unsearched_display hhere, Path.ofString_display_iff⟩
  · exact Request.resolveProgram_of_not_standsLocally
  · exact WorkingDirectory.isText_resolve_iff h.directory r.program

/-- A file below a home directory that is a text, while the working directory is none. -/
theorem spawn_local_first_below_home :
    let fs : FileSystem :=
      ⟨.dir [([100, 255], .dir []), (Text.toBytes "h", .dir [(Text.toBytes "tool", .file 0)])],
        #[⟨.empty, File.defaultMode⟩], none⟩
    let h : Host := ⟨fs, [], ⟨⟨[47, 100, 255]⟩, some (Path.ofString "/h")⟩, .plain,
      .recording (.ok none), .off, [], .empty, .empty, #[], 0, 0⟩
    let r : Request := ⟨"~/tool", ["x"], true⟩
    h.directory.current.isAbsolute = true ∧ r.StandsLocally h.directory h.files ∧
      (h.spawn r).2.requests = #[⟨"/h/tool", ["x"], true⟩] ∧
      Path.ofString (r.resolveProgram h.directory h.files).program = h.resolve r.program := by
  intro fs h r
  have habs : h.directory.current.isAbsolute = true := rfl
  have hlocal : r.StandsLocally h.directory h.files := ⟨.file 0, by cbv, rfl⟩
  have hstarts : h.directory.StartsFromHome (Path.ofString r.program) :=
    ⟨⟨_, rfl, by decide⟩, .inr ⟨Path.slash, .inl rfl, by decide⟩⟩
  have hhome : ∀ home, h.directory.home = some home → home.IsText := by
    rintro home hsome
    exact Option.some.inj hsome ▸ Path.isText_ofString "/h"
  obtain ⟨-, -, -, hfound, -, htext⟩ := spawn_local_first r habs
  refine ⟨habs, hlocal, by cbv, ?_⟩
  exact (hfound hlocal).2.2.mpr (htext.mpr (.inr (.inl ⟨hstarts, hhome⟩)))

/-- In a directory whose name is no text, a request for the program in it asks for another file, if
there is one in the directory that the name is shown as. -/
theorem spawn_local_mistaken :
    let fs : FileSystem :=
      ⟨.dir [([100, 255], .dir [(Text.toBytes "tool", .file 0)]),
        (Text.toBytes "d\uFFFD", .dir [(Text.toBytes "tool", .file 1)])],
        #[⟨.empty, File.defaultMode⟩, ⟨.empty, File.defaultMode⟩], none⟩
    let d : WorkingDirectory := ⟨⟨[47, 100, 255]⟩, none⟩
    let r : Request := ⟨"tool", [], true⟩
    let found := r.resolveProgram d fs
    d.current.isAbsolute = true ∧ r.StandsLocally d fs ∧
      fs.stat (d.resolve (Path.ofString r.program)) = .ok (.file 0) ∧
      fs.stat (Path.ofString found.program) = .ok (.file 1) := by
  intro fs d r found
  have hstat : fs.stat (d.resolve (Path.ofString r.program)) = .ok (.file 0) := by cbv
  have hlocal : r.StandsLocally d fs := ⟨.file 0, hstat, rfl⟩
  have hfound : found = ⟨"/d\uFFFD/tool", [], true⟩ := by
    refine (Request.resolveProgram_of_standsLocally hlocal).trans ?_
    cbv
  refine ⟨rfl, hlocal, hstat, ?_⟩
  rw [hfound]
  cbv

end Host

end LuaShell
