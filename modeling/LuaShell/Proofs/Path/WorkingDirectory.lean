import LuaShell.Host
import LuaShell.Proofs.Path.Steps
import Mathlib

/-!
# The working directory over any run of changes

A visit is one change of the working directory, made while the files are what they are
then.  However many visits there have been and whatever the files were, the directory
stays absolute and in canonical text (`visits_keep_canonical`), and every text resolves
to an absolute path.  What one more visit does is said exactly: what it answers, where
the directory is afterwards, and that a refusal moves nothing.
-/

namespace LuaShell

namespace Path

/-- How many components an absolute path has behind the root. -/
def depth (p : Path) : Nat :=
  p.components.length - 1

theorem depth_ofNames {names : List Name} (hnames : ∀ n ∈ names, IsName n) :
    (ofNames names).depth = names.length := by
  simp [depth, components_ofNames hnames]

end Path

namespace WorkingDirectory

open LuaShell.Path (IsName ofNames)

/-! ## Resolving -/

theorem resolve_of_isAbsolute (d : WorkingDirectory) {raw : Path}
    (habs : raw.isAbsolute = true) : d.resolve raw = raw := by
  simp [resolve, habs]

/-- From an absolute directory every text resolves to an absolute path, whatever the home
directory is. -/
theorem isAbsolute_resolve {d : WorkingDirectory} (hcurrent : d.current.isAbsolute = true)
    (raw : Path) : (d.resolve raw).isAbsolute = true := by
  unfold resolve
  split
  · assumption
  · split
    · split
      · split
        · assumption
        · exact Path.isAbsolute_join hcurrent raw
      · exact Path.isAbsolute_join hcurrent raw
    · exact Path.isAbsolute_join hcurrent raw

/-! ## Walking up -/

theorem isAbsolute_walkUp (steps : Nat) {p : Path} (hp : p.isAbsolute = true) :
    (walkUp steps p).isAbsolute = true := by
  induction steps generalizing p with
  | zero => exact hp
  | succ steps ih =>
      rw [walkUp_succ]
      cases hparent : p.parent with
      | none => exact hp
      | some above => exact ih (Path.steps_parent hp hparent).1

/-- Walking up takes names away from the end, as long as there are any. -/
theorem walkUp_ofNames {names : List Name} (hnames : ∀ n ∈ names, IsName n) (steps : Nat) :
    walkUp steps (ofNames names) = ofNames (names.take (names.length - steps)) := by
  induction steps generalizing names with
  | zero => simp [walkUp_zero]
  | succ steps ih =>
      by_cases hne : names = []
      -- At the root there is nothing to take away, however many steps are left.
      · subst hne
        simp [walkUp_succ, Path.ofNames_nil, Path.parent_rootDirectory]
      · have hfront : ∀ n ∈ names.dropLast, IsName n := fun n hn =>
          hnames n (List.dropLast_subset _ hn)
        have htake : names.dropLast.take (names.dropLast.length - steps) =
            names.take (names.length - (steps + 1)) := by
          rw [List.length_dropLast, List.dropLast_eq_take, List.take_take]
          congr 1
          omega
        simp only [walkUp_succ, Path.parent_ofNames hnames hne]
        rw [ih hfront, htake]

/-- From a canonical directory walking up ends at a canonical one, and takes as many components
away as there are steps and components. -/
theorem walkUp_of_isCanonical {p : Path} (hp : p.IsCanonical) (steps : Nat) :
    (walkUp steps p).IsCanonical ∧
      (walkUp steps p).components =
        p.components.take (p.components.length - min steps p.depth) := by
  obtain ⟨names, hnames, rfl⟩ := Path.isCanonical_iff.mp hp
  have hkept : ∀ n ∈ names.take (names.length - steps), IsName n := fun n hn =>
    hnames n (List.mem_of_mem_take hn)
  rw [walkUp_ofNames hnames]
  refine ⟨Path.isCanonical_ofNames hkept, ?_⟩
  rw [Path.components_ofNames hkept, Path.components_ofNames hnames, Path.depth_ofNames hnames]
  have hlength : names.length + 1 - min steps names.length = names.length - steps + 1 := by
    omega
  simp [hlength, List.map_take]

end WorkingDirectory

/-! ## Visits -/

/-- A change of the working directory: the files as they are then, and where to go. -/
structure Visit where
  files : FileSystem
  target : DirectoryTarget

namespace Host

/-- One change of the working directory, with its answer. -/
def visit (h : Host) (v : Visit) : Except PathError Unit × Host :=
  { h with files := v.files }.changeDirectory v.target

/-- One change after another, whatever each of them answers. -/
def visits (h : Host) (vs : List Visit) : Host :=
  vs.foldl (fun h v => (h.visit v).2) h

/-- Walking up is never refused. -/
theorem visit_up (h : Host) (fs : FileSystem) (steps : UInt64) :
    (h.visit ⟨fs, .up steps⟩).1 = .ok () ∧
      (h.visit ⟨fs, .up steps⟩).2.directory =
        { h.directory with
          current := WorkingDirectory.walkUp steps.toNat h.directory.current } := by
  simp [visit, changeDirectory, WorkingDirectory.change]

/-- A path leads to its normal form if there is a directory, and else nowhere. -/
theorem visit_path (h : Host) (fs : FileSystem) (raw : Path) :
    if fs.isDirectory (h.directory.resolve raw).normalize then
      (h.visit ⟨fs, .path raw⟩).1 = .ok () ∧
        (h.visit ⟨fs, .path raw⟩).2.directory =
          { h.directory with current := (h.directory.resolve raw).normalize }
    else
      (h.visit ⟨fs, .path raw⟩).1 = .error (.notDirectory (h.directory.resolve raw).normalize) ∧
        (h.visit ⟨fs, .path raw⟩).2 = { h with files := fs } := by
  by_cases hdir : fs.isDirectory (h.directory.resolve raw).normalize = true
  · rw [if_pos hdir]
    simp [visit, changeDirectory, WorkingDirectory.change, hdir]
  · rw [if_neg hdir]
    simp [visit, changeDirectory, WorkingDirectory.change, hdir]

/-- One visit keeps the directory canonical. -/
theorem visit_canonical {h : Host} (hcanonical : h.directory.current.IsCanonical) (v : Visit) :
    (h.visit v).2.directory.current.IsCanonical := by
  obtain ⟨fs, target⟩ := v
  cases target with
  | up steps =>
      rw [(visit_up h fs steps).2]
      exact (WorkingDirectory.walkUp_of_isCanonical hcanonical steps.toNat).1
  | path raw =>
      have hspec := visit_path h fs raw
      split at hspec
      · rw [hspec.2]
        exact Path.isCanonical_normalize
          (WorkingDirectory.isAbsolute_resolve hcanonical.isAbsolute raw)
      · rw [hspec.2]
        exact hcanonical

/-- Any run of visits keeps the directory canonical. -/
theorem visits_keep_canonical {h : Host} (hcanonical : h.directory.current.IsCanonical)
    (vs : List Visit) : (h.visits vs).directory.current.IsCanonical := by
  induction vs generalizing h with
  | nil => exact hcanonical
  | cons v vs ih => exact ih (visit_canonical hcanonical v)

/-- After any run of visits from a canonical directory: the directory is absolute and canonical,
every text resolves to an absolute path and an absolute one to itself; one more visit to a path
leads to its normal form if that is a directory then, and is refused and moves nothing if it is
not; and one more visit upwards takes off as many components as there are, at most the steps. -/
theorem visits_canonical (h : Host) (hcanonical : h.directory.current.IsCanonical)
    (vs : List Visit) :
    let now := (h.visits vs).directory
    now.current.IsCanonical ∧
    (∀ raw, (now.resolve raw).isAbsolute = true ∧
      (raw.isAbsolute = true → now.resolve raw = raw)) ∧
    (∀ v e, ((h.visits vs).visit v).1 = .error e →
      ((h.visits vs).visit v).2.directory = now) ∧
    (∀ fs raw, ((h.visits vs).visit ⟨fs, .path raw⟩).1 = .ok () ↔
      fs.isDirectory (now.resolve raw).normalize = true) ∧
    (∀ fs raw, ((h.visits vs).visit ⟨fs, .path raw⟩).1 = .ok () →
      ((h.visits vs).visit ⟨fs, .path raw⟩).2.directory =
        { now with current := (now.resolve raw).normalize }) ∧
    (∀ fs steps, ((h.visits vs).visit ⟨fs, .up steps⟩).1 = .ok () ∧
      ((h.visits vs).visit ⟨fs, .up steps⟩).2.directory.current.components =
        now.current.components.take
          (now.current.components.length - min steps.toNat now.current.depth)) := by
  intro now
  have hnow : now.current.IsCanonical := visits_keep_canonical hcanonical vs
  refine ⟨hnow, ?_, ?_, ?_, ?_, ?_⟩
  · exact fun raw => ⟨WorkingDirectory.isAbsolute_resolve hnow.isAbsolute raw,
      WorkingDirectory.resolve_of_isAbsolute now⟩
  · rintro ⟨fs, target⟩ e hrefused
    cases target with
    | up steps =>
        rw [(visit_up _ fs steps).1] at hrefused
        cases hrefused
    | path raw =>
        have hspec := visit_path (h.visits vs) fs raw
        split at hspec
        · rw [hspec.1] at hrefused
          cases hrefused
        · rw [hspec.2]
  · intro fs raw
    have hspec := visit_path (h.visits vs) fs raw
    split at hspec
    · next hdir => exact ⟨fun _ => hdir, fun _ => hspec.1⟩
    · next hdir =>
        rw [hspec.1]
        exact iff_of_false (by simp) hdir
  · intro fs raw hok
    have hspec := visit_path (h.visits vs) fs raw
    split at hspec
    · exact hspec.2
    · rw [hspec.1] at hok
      cases hok
  · intro fs steps
    obtain ⟨hok, hdirectory⟩ := visit_up (h.visits vs) fs steps
    refine ⟨hok, ?_⟩
    rw [hdirectory]
    exact (WorkingDirectory.walkUp_of_isCanonical hnow steps.toNat).2

/-- A refused visit, a visit to a directory and one upwards, from a directory two levels deep
and with a home directory that is no absolute path. -/
theorem visits_canonical_two_levels :
    let root : Node := .dir [(Text.toBytes "a", .dir [])]
    let h : Host := ⟨.empty, [], ⟨Path.ofString "/a/b", some (Path.ofString "home")⟩, .plain,
      .unsupported, .off, [], .empty, .empty, #[], 0, 0⟩
    let vs : List Visit := [⟨.empty, .path (Path.ofString "~/c")⟩,
      ⟨⟨root, #[], none⟩, .path (Path.ofString ".././")⟩]
    h.directory.current.IsCanonical ∧ (h.visits vs).directory.current = Path.ofString "/a" ∧
      (h.visits vs).directory.current.IsCanonical ∧
      ((h.visits vs).directory.resolve (Path.ofString "~/c")).isAbsolute = true ∧
      ((h.visits vs).visit ⟨.empty, .up 7⟩).2.directory.current.components =
        (h.visits vs).directory.current.components.take
          ((h.visits vs).directory.current.components.length -
            min (7 : UInt64).toNat (h.visits vs).directory.current.depth) := by
  intro root h vs
  have hcanonical : h.directory.current.IsCanonical := ⟨by decide, Or.inr (by decide)⟩
  have hplace : (h.visits vs).directory.current = Path.ofString "/a" := by cbv
  obtain ⟨hnow, hresolve, -, -, -, hup⟩ := visits_canonical h hcanonical vs
  exact ⟨hcanonical, hplace, hnow, (hresolve _).1, (hup .empty 7).2⟩

end Host

end LuaShell
