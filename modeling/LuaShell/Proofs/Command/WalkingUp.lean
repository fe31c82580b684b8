import LuaShell.Command.Directory
import LuaShell.Proofs.Number.Binary64
import LuaShell.Proofs.Path.WorkingDirectory

/-!
# Walking up by a number

A number that is an integer asks `cd` for as many steps up as it is great, whatever its sign and
however it is written (`AsksUp`).  Steps are counted in sixty-four bits, of which an integer never
needs more; a double that does is given as many steps as can be counted, and those lead to the root
from every directory that has fewer components (`walkUp_min`).  So the directory loses that many
components, or all that it has, and the laws of walking up are those of addition
(`changeDirectory_number`).

The loop stops at the first step that finds nothing above, so it makes at most one step more than
there are components (`walkUpCounted_snd`).
-/

namespace LuaShell

namespace WorkingDirectory

open LuaShell.Path (IsName ofNames)

/-- One step is tried for each component, and one more that finds nothing above. -/
theorem walkUpCounted_snd {p : Path} (hp : p.IsCanonical) (steps : Nat) :
    (walkUpCounted steps p).2 = min steps (p.depth + 1) := by
  obtain ⟨names, hnames, rfl⟩ := Path.isCanonical_iff.mp hp
  clear hp
  rw [Path.depth_ofNames hnames]
  induction steps generalizing names with
  | zero => simp [walkUpCounted]
  | succ steps ih =>
      by_cases hne : names = []
      · subst hne
        simp [walkUpCounted, Path.ofNames_nil, Path.parent_rootDirectory]
      · have hfront : ∀ n ∈ names.dropLast, IsName n := fun n hn =>
          hnames n (List.dropLast_subset _ hn)
        have hlength : 0 < names.length := List.length_pos_iff.mpr hne
        simp only [walkUpCounted, Path.parent_ofNames hnames hne, ih _ hfront,
          List.length_dropLast]
        omega

/-- At a path with nothing above walking up stays. -/
theorem walkUp_of_parent_eq_none {p : Path} (hp : p.parent = none) (steps : Nat) :
    walkUp steps p = p := by
  cases steps with
  | zero => rfl
  | succ steps => simp only [walkUp_succ, hp]

theorem walkUp_walkUp (m n : Nat) (p : Path) : walkUp n (walkUp m p) = walkUp (m + n) p := by
  induction m generalizing p with
  | zero => rw [walkUp_zero, Nat.zero_add]
  | succ m ih =>
      rw [Nat.succ_add, walkUp_succ, walkUp_succ]
      cases hparent : p.parent with
      | none => exact walkUp_of_parent_eq_none hparent n
      | some above => exact ih above

/-- More steps than there are components make no difference. -/
theorem walkUp_min {p : Path} (hp : p.IsCanonical) {most : Nat} (hmost : p.depth ≤ most)
    (steps : Nat) : walkUp (min steps most) p = walkUp steps p := by
  obtain ⟨names, hnames, rfl⟩ := Path.isCanonical_iff.mp hp
  rw [Path.depth_ofNames hnames] at hmost
  rw [walkUp_ofNames hnames, walkUp_ofNames hnames]
  congr 2
  omega

end WorkingDirectory

/-- The host with the working directory so many directories further up. -/
def Host.walkedUp (h : Host) (steps : Nat) : Host :=
  { h with directory :=
    { h.directory with current := WorkingDirectory.walkUp steps h.directory.current } }

theorem Host.walkedUp_walkedUp (h : Host) (m n : Nat) :
    (h.walkedUp m).walkedUp n = h.walkedUp (m + n) := by
  simp [Host.walkedUp, WorkingDirectory.walkUp_walkUp]

namespace DirectoryCommand

open Lua (Value)

/-- The value is a number that asks for so many steps up: an integer, or a double that is one. -/
inductive AsksUp : Value → Nat → Prop where
  | int (n : Int64) : AsksUp (.int n) n.toInt.natAbs
  | num {x : Float} {n : ℤ} : (Binary64.ofFloat x).value? = some (n : ℚ) → AsksUp (.num x) n.natAbs

/-- The greatest number of steps that is counted. -/
def mostSteps : Nat := UInt64.size - 1

theorem natAbs_toInt_le (n : Int64) : n.toInt.natAbs ≤ 2 ^ 63 := by
  have hle := Int64.le_toInt n
  have hlt := Int64.toInt_lt n
  omega

variable {v w u : Value} {k m n : Nat} {h : Host} {rest : List Value}

theorem AsksUp.directoryTarget (hv : AsksUp v k) (a : Arguments) :
    directoryTarget a v = .ok (.up (UInt64.ofNat (min k mostSteps))) := by
  cases hv with
  | int n =>
      have hfits : n.toInt.natAbs ≤ mostSteps := (natAbs_toInt_le n).trans (by decide)
      rw [DirectoryCommand.directoryTarget, Nat.min_eq_left hfits]
  | num hx =>
      rw [DirectoryCommand.directoryTarget, stepsOfFloat?, Binary64.exactInt?_eq_some_iff.mpr hx]
      rfl

theorem toNat_ofNat_min (k : Nat) :
    (UInt64.ofNat (min k mostSteps)).toNat = min k mostSteps := by
  refine UInt64.toNat_ofNat_of_lt' ?_
  have hmost : mostSteps < UInt64.size := by decide
  omega

/-- A number walks up at once, and the only thing that changes is the working directory. -/
theorem AsksUp.changeDirectory (hv : AsksUp v k) :
    changeDirectory (v :: rest) h = (.ok [], h.walkedUp (min k mostSteps)) := by
  have hget : (Arguments.mk "cd" (v :: rest)).get? 0 = some v := by
    cases hv <;> rfl
  simp only [DirectoryCommand.changeDirectory, hget, hv.directoryTarget, Host.changeDirectory,
    WorkingDirectory.change, toNat_ofNat_min, Except.mapError, Host.settle, Host.walkedUp]

/-- As many steps are taken as are asked for, if they can be counted or more than enough can. -/
theorem AsksUp.changeDirectory_of_fits (hv : AsksUp v k)
    (hcanonical : h.directory.current.IsCanonical)
    (hfits : k < UInt64.size ∨ h.directory.current.depth < UInt64.size) :
    DirectoryCommand.changeDirectory (v :: rest) h = (.ok [], h.walkedUp k) := by
  have hmost : mostSteps + 1 = UInt64.size := by decide
  rw [hv.changeDirectory]
  rcases hfits with hk | hd
  · rw [Nat.min_eq_left (by omega)]
  · rw [Host.walkedUp, WorkingDirectory.walkUp_min hcanonical (by omega)]
    rfl

/-- A double that is no integer is refused, and nothing changes. -/
theorem changeDirectory_of_not_integral {x : Float}
    (hx : ∀ n : ℤ, (Binary64.ofFloat x).value? ≠ some (n : ℚ)) :
    changeDirectory (.num x :: rest) h =
      (.error ((Arguments.mk "cd" (.num x :: rest)).invalid
        s!"cannot walk up {Notation.positional x} directories"), h) := by
  have hnone : (Binary64.ofFloat x).exactInt? = none :=
    Option.eq_none_iff_forall_ne_some.mpr fun n hn => hx n (Binary64.exactInt?_eq_some_iff.mp hn)
  simp [DirectoryCommand.changeDirectory, Arguments.get?, directoryTarget, stepsOfFloat?, hnone]

/-- The magnitude of an integer is never too great. -/
theorem changeDirectory_int (n : Int64) :
    changeDirectory (.int n :: rest) h = (.ok [], h.walkedUp n.toInt.natAbs) := by
  rw [(AsksUp.int n).changeDirectory,
    Nat.min_eq_left ((natAbs_toInt_le n).trans (by decide))]

theorem natAbs_toInt_neg (n : Int64) : (-n).toInt.natAbs = n.toInt.natAbs := by
  have hle := Int64.le_toInt n
  have hlt := Int64.toInt_lt n
  rw [Int64.toInt_neg, Int.bmod_def]
  omega

theorem natAbs_toInt_add {a b : Int64} (ha : 0 ≤ a.toInt) (hb : 0 ≤ b.toInt)
    (hsum : a.toInt + b.toInt < 2 ^ 63) :
    (a + b).toInt.natAbs = a.toInt.natAbs + b.toInt.natAbs := by
  rw [Int64.toInt_add, Int.bmod_def]
  omega

/-- From a canonical directory an integer, or a double that is one, takes so many components away
from the end, or all that there are, and nothing else changes. (Of more steps than can be counted in
sixty-four bits only so many are taken; that makes a difference only to a path of more components
than that.) The steps are counted without overflow, and at most one more is tried than there are
components. So a number and its negative do the same, an integer and the double equal to it do too,
and one walk after another is the walk by the sum. A double that is no integer is refused and
changes nothing. -/
theorem changeDirectory_number (h : Host) (hcanonical : h.directory.current.IsCanonical)
    (rest : List Value) :
    let p := h.directory.current
    (∀ v k, AsksUp v k → k < UInt64.size ∨ p.depth < UInt64.size →
      changeDirectory (v :: rest) h = (.ok [], h.walkedUp k) ∧
        (h.walkedUp k).directory.current.IsCanonical ∧
        (h.walkedUp k).directory.current.components =
          p.components.take (p.components.length - min k p.depth)) ∧
    (∀ v k, AsksUp v k → ∃ steps : UInt64,
      directoryTarget ⟨"cd", v :: rest⟩ v = .ok (.up steps) ∧ steps.toNat = min k mostSteps ∧
        (WorkingDirectory.walkUpCounted steps.toNat p).1 = WorkingDirectory.walkUp steps.toNat p ∧
        (WorkingDirectory.walkUpCounted steps.toNat p).2 ≤ p.depth + 1) ∧
    (∀ n : Int64, changeDirectory (.int (-n) :: rest) h = changeDirectory (.int n :: rest) h) ∧
    (∀ (n : Int64) (x : Float), (Binary64.ofFloat x).value? = some (n.toInt : ℚ) →
      changeDirectory (.num x :: rest) h = changeDirectory (.int n :: rest) h) ∧
    (∀ a b : Int64, 0 ≤ a.toInt → 0 ≤ b.toInt → a.toInt + b.toInt < 2 ^ 63 →
      changeDirectory (.int b :: rest) (changeDirectory (.int a :: rest) h).2 =
        changeDirectory (.int (a + b) :: rest) h) ∧
    (∀ x : Float, (∀ n : ℤ, (Binary64.ofFloat x).value? ≠ some (n : ℚ)) →
      changeDirectory (.num x :: rest) h =
        (.error ((Arguments.mk "cd" (.num x :: rest)).invalid
          s!"cannot walk up {Notation.positional x} directories"), h)) := by
  intro p
  refine ⟨?_, ?_, ?_, ?_, ?_, ?_⟩
  · intro v k hv hfits
    obtain ⟨hkept, hcomponents⟩ := WorkingDirectory.walkUp_of_isCanonical hcanonical k
    exact ⟨hv.changeDirectory_of_fits hcanonical hfits, hkept, hcomponents⟩
  · intro v k hv
    refine ⟨_, hv.directoryTarget _, toNat_ofNat_min k, rfl, ?_⟩
    rw [WorkingDirectory.walkUpCounted_snd hcanonical]
    exact Nat.min_le_right _ _
  · intro n
    rw [changeDirectory_int, changeDirectory_int, natAbs_toInt_neg]
  · intro n x hx
    exact (AsksUp.num hx).changeDirectory.trans (AsksUp.int n).changeDirectory.symm
  · intro a b ha hb hsum
    rw [changeDirectory_int, changeDirectory_int, changeDirectory_int, natAbs_toInt_add ha hb hsum,
      Host.walkedUp_walkedUp]
  · exact fun x hx => changeDirectory_of_not_integral hx

/-- From a directory two levels deep the least integer and a double that no integer is as great as
lead to the root, one step after another is as good as two, and one and a half are refused. -/
theorem changeDirectory_number_two_levels :
    let h : Host := ⟨.empty, [], ⟨Path.ofString "/a/b", none⟩, .plain, .unsupported, .off, [],
      .empty, .empty, #[], 0, 0⟩
    h.directory.current.IsCanonical ∧
      (changeDirectory [.int (-0x8000000000000000)] h).2.directory.current.components = [.root] ∧
      (changeDirectory [.num 1e20] h).2.directory.current.components = [.root] ∧
      changeDirectory [.int 1] (changeDirectory [.int 1] h).2 = changeDirectory [.int 2] h ∧
      changeDirectory [.num 2] h = changeDirectory [.int 2] h ∧
      ∃ e, changeDirectory [.num 1.5] h = (.error e, h) := by
  intro h
  have hcanonical : h.directory.current.IsCanonical := ⟨by decide, Or.inr (by decide)⟩
  obtain ⟨hup, -, -, hdouble, hsum, hrefused⟩ := changeDirectory_number h hcanonical []
  have hdepth : h.directory.current.depth < UInt64.size := by decide
  have hgreat : (Binary64.ofFloat 1e20).value? = some ((10 ^ 20 : ℤ) : ℚ) :=
    Binary64.exactInt?_eq_some_iff.mp (by decide)
  have htwo : (Binary64.ofFloat 2).value? = some (((2 : Int64).toInt : ℤ) : ℚ) :=
    Binary64.exactInt?_eq_some_iff.mp (by decide)
  obtain ⟨hleast, -, hroot⟩ := hup _ _ (.int (-0x8000000000000000)) (.inr hdepth)
  obtain ⟨hdoubled, -, hroot'⟩ := hup _ _ (.num hgreat) (.inr hdepth)
  refine ⟨hcanonical, ?_, ?_, hsum 1 1 (by decide) (by decide) (by decide), hdouble 2 2 htwo, ?_⟩
  · rw [hleast, hroot]
    decide
  · rw [hdoubled, hroot']
    decide
  · refine ⟨_, hrefused 1.5 fun n hn => ?_⟩
    have hsome := Binary64.exactInt?_eq_some_iff.mpr hn
    have hnone : (Binary64.ofFloat 1.5).exactInt? = none := by decide
    rw [hnone] at hsome
    cases hsome

end DirectoryCommand

end LuaShell
