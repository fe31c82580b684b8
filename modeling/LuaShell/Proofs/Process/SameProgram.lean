import LuaShell.Process.Program
import LuaShell.Proofs.FileSystem.ProcessDirectory
import LuaShell.Proofs.Path.WorkingDirectory
import LuaShell.Proofs.Text.Utf8

/-!
# Which program is started

A name with a slash is a path, and a relative one starts from the process directory.  As
long as all paths are absolute that are gone through to load a program, that of the file and
those of its interpreters (`Anchored`), the same program is started wherever the process is
(`start_detached`).  A request is made absolute only if a file stands where the working
directory puts its program (`isAbsolute_resolveProgram_iff`).
-/

namespace LuaShell

/-- The host of a process whose directory is gone. -/
def Host.detached (h : Host) : Host :=
  { h with files := h.files.detached }

/-- The text of an absolute path spells an absolute path. -/
theorem Path.display_of_isAbsolute {p : Path} (hp : p.isAbsolute = true) :
    (Path.ofString p.display).isAbsolute = true ∧ p.display.toList.contains '/' = true := by
  obtain ⟨bs, hbs⟩ := Path.isAbsolute_iff.mp hp
  have hlead : Text.Lead.of Path.slash bs = .char '/' 1 := Text.lead_of_one (by decide) bs
  have hdisplay : p.display.toList = '/' :: Text.decodeLossy bs := by
    rw [display, hbs, String.toList_ofList, Text.decodeLossy, hlead]
    rfl
  refine ⟨?_, by simp [hdisplay]⟩
  rw [isAbsolute, ofString, Text.toBytes_eq_flatMap, hdisplay]
  rfl

namespace Program

/-- All paths are absolute that are gone through to load the file at a path, when that many
interpreters may be scripts themselves. -/
def Anchored (fs : FileSystem) : Nat → Path → Prop
  | 0, p => p.isAbsolute = true
  | levels + 1, p => p.isAbsolute = true ∧ ∀ node f name more, fs.stat p = .ok node →
      fs.file? node = some f → interpreter? f.bytes.data.toList = some (name, more) →
      Anchored fs levels (Path.ofString name)

theorem Anchored.isAbsolute {fs : FileSystem} {levels : Nat} {p : Path}
    (hanchored : Anchored fs levels p) : p.isAbsolute = true := by
  cases levels with
  | zero => exact hanchored
  | succ levels => exact hanchored.1

/-- Whether all paths are absolute does not depend on the process directory itself. -/
theorem anchored_detached_iff {fs : FileSystem} {levels : Nat} {p : Path} :
    Anchored fs.detached levels p ↔ Anchored fs levels p := by
  induction levels generalizing p with
  | zero => rfl
  | succ levels ih =>
      refine and_congr_right fun habs => ?_
      simp only [FileSystem.stat_detached habs, FileSystem.detached_file?, ih]

/-- What is loaded from absolute paths does not depend on the process directory. -/
theorem load_detached {find : Finder} {levels : Nat} {fs : FileSystem} {p : Path}
    (hanchored : Anchored fs levels p) (arguments : List String) :
    load find levels fs.detached p arguments = load find levels fs p arguments := by
  induction levels generalizing p arguments with
  | zero =>
      unfold load
      rw [FileSystem.stat_detached hanchored.isAbsolute]
      rcases fs.stat p with e | node
      · cases e <;> rfl
      dsimp only
      rw [FileSystem.detached_file?]
      rcases fs.file? node with _ | f
      · rfl
      dsimp only
      rcases interpreter? f.bytes.data.toList with _ | line <;> rfl
  | succ levels ih =>
      unfold load
      rw [FileSystem.stat_detached hanchored.isAbsolute]
      rcases hstat : fs.stat p with e | node
      · cases e <;> rfl
      dsimp only
      rw [FileSystem.detached_file?]
      rcases hf : fs.file? node with _ | f
      · rfl
      dsimp only
      rcases hinterpreter : interpreter? f.bytes.data.toList with _ | ⟨name, more⟩
      · rfl
      · dsimp only
        -- The interpreter is loaded in place of the script, from a path that is absolute as well.
        rw [ih (hanchored.2 node f name more hstat hf hinterpreter)]

/-- A name with a slash is loaded from the path that it spells. -/
theorem find_of_slash {name : String} (hslash : name.toList.contains '/' = true)
    (arguments : List String) (r : SystemShell.Run) :
    find maxDepth (name :: arguments) r =
      load (find 999) maxInterpreters r.host.files (Path.ofString name) arguments := by
  have hname : name.isEmpty = false := by
    rw [Bool.eq_false_iff]
    intro hempty
    rw [String.isEmpty_iff.mp hempty] at hslash
    cases hslash
  rw [show maxDepth = 999 + 1 from rfl, find]
  simp only [hname, hslash, if_true]
  rfl

/-- The same program is started, or refused for the same cause, wherever the process is. -/
theorem start_detached {name : String} {h : Host} (hslash : name.toList.contains '/' = true)
    (hanchored : Anchored h.files maxInterpreters (Path.ofString name)) (arguments : List String) :
    (start (name :: arguments) h.detached).1 = (start (name :: arguments) h).1 := by
  have hfind : find maxDepth (name :: arguments) (.start h.detached name []) =
      find maxDepth (name :: arguments) (.start h name []) := by
    rw [find_of_slash hslash, find_of_slash hslash]
    exact load_detached hanchored arguments
  unfold start
  simp only [List.head?_cons, Option.getD_some]
  rw [hfind]
  rcases find maxDepth (name :: arguments) (.start h name []) with e | program <;> rfl

theorem start_snd (words : List String) (h : Host) : (start words h).2 = h := by
  unfold start
  dsimp only
  split <;> rfl

end Program

namespace Request

variable {r : Request} {d : WorkingDirectory} {fs : FileSystem}

theorem eq_resolve_of_localProgram? {here : Path} (hlocal : r.localProgram? d fs = some here) :
    here = d.resolve (Path.ofString r.program) := by
  unfold localProgram? at hlocal
  dsimp only at hlocal
  split at hlocal
  · exact (Option.some.inj hlocal).symm
  · cases hlocal

variable (habs : d.current.isAbsolute = true)

include habs

theorem localProgram?_detached : r.localProgram? d fs.detached = r.localProgram? d fs := by
  have hhere := WorkingDirectory.isAbsolute_resolve habs (Path.ofString r.program)
  simp only [localProgram?, FileSystem.pathExists_detached hhere,
    FileSystem.isDirectory_detached hhere]

theorem resolveProgram_detached : r.resolveProgram d fs.detached = r.resolveProgram d fs := by
  simp only [resolveProgram, localProgram?_detached habs]

/-- A request asks for an absolute path if a file of its name stands in the working directory, or if
an absolute path was typed; otherwise it asks for what was typed. -/
theorem isAbsolute_resolveProgram_iff :
    (Path.ofString (r.resolveProgram d fs).program).isAbsolute = true ↔
      (r.localProgram? d fs).isSome ∨ (Path.ofString r.program).isAbsolute = true := by
  unfold resolveProgram
  cases hlocal : r.localProgram? d fs with
  | none => simp
  | some here =>
      obtain rfl := eq_resolve_of_localProgram? hlocal
      have hhere := WorkingDirectory.isAbsolute_resolve habs (Path.ofString r.program)
      simpa using (Path.display_of_isAbsolute hhere).1

/-- A name with a slash is one after a file of that name has been looked for. -/
theorem contains_slash_resolveProgram (hslash : r.program.toList.contains '/' = true) :
    (r.resolveProgram d fs).program.toList.contains '/' = true := by
  unfold resolveProgram
  cases hlocal : r.localProgram? d fs with
  | none => exact hslash
  | some here =>
      obtain rfl := eq_resolve_of_localProgram? hlocal
      exact (Path.display_of_isAbsolute (WorkingDirectory.isAbsolute_resolve habs _)).2

end Request

end LuaShell
