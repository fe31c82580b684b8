import LuaShell.Process.Launch
import Mathlib

/-!
# The calls of a launch

A launch asks its platform to start a program once at most, to write reports, and to wait.  A
platform can be made to note these calls without any other difference (`Platform.noting`), so that
what a launch asks for, how often and in which order can be read off the notes (`launch_calls`).

Every wait that is interrupted is a call of its own.  Only the last one, which is not interrupted,
counts for the answer.
-/

namespace LuaShell

/-- A call that a launch makes. -/
inductive PlatformCall where
  | start (words : List String)
  | write (text : String)
  /-- Wait for the program of that number, until it ends or an interruption comes. -/
  | wait (pid : Nat)
  deriving DecidableEq

variable {σ : Type}

/-- The program of which the waits are noted. -/
def Child.noting (child : Child σ) : Child (σ × List PlatformCall) where
  pid := child.pid
  interruptions := child.interruptions
  interrupted s := (child.interrupted s.1, s.2 ++ [.wait child.pid])
  run s := ((child.run s.1).1, (child.run s.1).2, s.2 ++ [.wait child.pid])

/-- The platform that notes what it is asked for. -/
def Platform.noting (platform : Platform σ) : Platform (σ × List PlatformCall) where
  start words s :=
    ((platform.start words s.1).1.map Child.noting, (platform.start words s.1).2,
      s.2 ++ [.start words])
  write text s := (platform.write text s.1, s.2 ++ [.write text])
  trace text s := (platform.trace text s.1, s.2)

@[simp] theorem Child.noting_pid (child : Child σ) : child.noting.pid = child.pid := rfl

@[simp] theorem Child.noting_interruptions (child : Child σ) :
    child.noting.interruptions = child.interruptions := rfl

@[simp] theorem Child.noting_interrupted (child : Child σ) (s : σ) (calls : List PlatformCall) :
    child.noting.interrupted (s, calls) =
      (child.interrupted s, calls ++ [.wait child.pid]) := rfl

/-- Whether the wait has told how the program ended. -/
def Ending.isTold : Ending → Bool
  | .unknown _ => false
  | _ => true

namespace Launch

/-! ## Texts that cannot be passed on -/

def HasZero (text : String) : Prop :=
  Char.ofNat 0 ∈ text.toList

/-- The first of the texts that has a zero character. -/
def IsFirstWithZero (texts : List String) (text : String) : Prop :=
  HasZero text ∧ ∃ front back, texts = front ++ text :: back ∧ ∀ t ∈ front, ¬ HasZero t

theorem offending?_eq_some_iff {texts : List String} {text : String} :
    offending? texts = some text ↔ IsFirstWithZero texts text := by
  simp [offending?, List.find?_eq_some_iff_append, IsFirstWithZero, HasZero]

theorem offending?_eq_none_iff {texts : List String} :
    offending? texts = none ↔ ∀ t ∈ texts, ¬ HasZero t := by
  simp [offending?, HasZero]

/-! ## Notes -/

section

variable (platform : Platform σ) (child : Child σ)

/-- The call that writes a report. -/
def reportCalls (verbose : Bool) (text : String) : List PlatformCall :=
  if verbose then [.write text] else []

theorem report_noting (verbose : Bool) (text : String) (s : σ) (calls : List PlatformCall) :
    report platform.noting verbose text (s, calls) =
      (report platform verbose text s, calls ++ reportCalls verbose text) := by
  cases verbose
  · simp [report, reportCalls]
  · rfl

/-- The end is told by the wait after the last interruption. -/
theorem await_eq (n : Nat) (s : σ) : await child n s = child.run (child.interrupted^[n] s) := by
  induction n generalizing s with
  | zero => rfl
  | succ n ih => rw [await, ih, Function.iterate_succ_apply]

theorem await_noting (n : Nat) (s : σ) (calls : List PlatformCall) :
    await child.noting n (s, calls) = ((await child n s).1, (await child n s).2,
      calls ++ List.replicate (n + 1) (.wait child.pid)) := by
  induction n generalizing s calls with
  | zero => rfl
  | succ n ih =>
      rw [await, await, Child.noting_interrupted, ih, List.replicate_succ (n := n + 1),
        List.append_assoc, List.singleton_append]

theorem conclude_noting (verbose : Bool) (pid : Nat) (s : σ) (calls : List PlatformCall)
    (ending : Ending) :
    conclude platform.noting verbose pid (s, calls) ending =
      ((conclude platform verbose pid s ending).1, (conclude platform verbose pid s ending).2,
        calls ++ if ending.isTold then reportCalls verbose (endReport pid) else []) := by
  cases ending with
  | exited code => simp only [conclude, report_noting, Ending.isTold, if_true]
  | killed => simp only [conclude, report_noting, Ending.isTold, if_true]
  | unknown cause => simp [conclude, Ending.isTold]

end

/-! ## The three ways of a launch -/

section

variable {platform : Platform σ} {r : Request} {s s₁ : σ}

theorem launch_of_offending {text : String}
    (htext : IsFirstWithZero (r.program :: r.arguments) text) :
    launch platform r s = (.error (.invalidArgument text), s) := by
  rw [launch, offending?_eq_some_iff.mpr htext]

theorem launch_of_refused {cause : Errno} (hzero : ∀ t ∈ r.program :: r.arguments, ¬ HasZero t)
    (hstart : platform.start (r.program :: r.arguments) s = (.error cause, s₁)) :
    launch platform r s = (.error (.launch (IoError.system cause).message), s₁) := by
  rw [launch, offending?_eq_none_iff.mpr hzero]
  simp only [hstart]

/-- The state in which a program that was started is waited for. -/
def awaited (platform : Platform σ) (r : Request) (pid : Nat) (s : σ) : σ :=
  report platform r.verbose (startReport pid)
    (platform.trace s!"spawned {r.program} as pid {pid}" s)

theorem launch_of_started {child : Child σ}
    (hzero : ∀ t ∈ r.program :: r.arguments, ¬ HasZero t)
    (hstart : platform.start (r.program :: r.arguments) s = (.ok child, s₁)) :
    launch platform r s =
      let told := await child child.interruptions (awaited platform r child.pid s₁)
      conclude platform r.verbose child.pid told.2 told.1 := by
  rw [launch, offending?_eq_none_iff.mpr hzero]
  simp only [hstart, awaited]

theorem awaited_noting (pid : Nat) (calls : List PlatformCall) :
    awaited platform.noting r pid (s, calls) =
      (awaited platform r pid s, calls ++ reportCalls r.verbose (startReport pid)) :=
  report_noting platform _ _ _ _

theorem launch_noting_of_refused {cause : Errno}
    (hzero : ∀ t ∈ r.program :: r.arguments, ¬ HasZero t)
    (hstart : platform.start (r.program :: r.arguments) s = (.error cause, s₁)) :
    launch platform.noting r (s, []) =
      (.error (.launch (IoError.system cause).message), s₁,
        [.start (r.program :: r.arguments)]) := by
  refine launch_of_refused hzero ?_
  simp [Platform.noting, hstart, Except.map]

theorem launch_noting_of_started {child : Child σ}
    (hzero : ∀ t ∈ r.program :: r.arguments, ¬ HasZero t)
    (hstart : platform.start (r.program :: r.arguments) s = (.ok child, s₁)) :
    launch platform.noting r (s, []) =
      let told := await child child.interruptions (awaited platform r child.pid s₁)
      let answer := conclude platform r.verbose child.pid told.2 told.1
      (answer.1, answer.2, .start (r.program :: r.arguments) ::
        reportCalls r.verbose (startReport child.pid) ++
        List.replicate (child.interruptions + 1) (.wait child.pid) ++
        if told.1.isTold then reportCalls r.verbose (endReport child.pid) else []) := by
  have hnoting : platform.noting.start (r.program :: r.arguments) (s, []) =
      (.ok child.noting, s₁, [.start (r.program :: r.arguments)]) := by
    simp [Platform.noting, hstart, Except.map]
  rw [launch_of_started hzero hnoting]
  simp only [Child.noting_pid, Child.noting_interruptions, awaited_noting, await_noting,
    conclude_noting, List.singleton_append]

theorem launch_noting_of_offending {text : String}
    (htext : IsFirstWithZero (r.program :: r.arguments) text) :
    launch platform.noting r (s, []) = (.error (.invalidArgument text), s, []) :=
  launch_of_offending htext

end

/-- Noting the calls makes no other difference. -/
theorem launch_noting (platform : Platform σ) (r : Request) (s : σ) :
    launch platform r s =
      ((launch platform.noting r (s, [])).1, (launch platform.noting r (s, [])).2.1) := by
  cases htext : offending? (r.program :: r.arguments) with
  | some text =>
      have hfirst := offending?_eq_some_iff.mp htext
      rw [launch_of_offending hfirst, launch_noting_of_offending hfirst]
  | none =>
      have hzero := offending?_eq_none_iff.mp htext
      rcases hstart : platform.start (r.program :: r.arguments) s with ⟨cause | child, s₁⟩
      · rw [launch_of_refused hzero hstart, launch_noting_of_refused hzero hstart]
      · rw [launch_of_started hzero hstart, launch_noting_of_started hzero hstart]

/-- What a launch answers after the program was started. -/
theorem conclude_fst (platform : Platform σ) (verbose : Bool) (pid : Nat) (s : σ) (ending : Ending) :
    (∀ code, (conclude platform verbose pid s ending).1 = .ok ⟨pid, some code⟩ ↔
      ending = .exited code) ∧
    ((conclude platform verbose pid s ending).1 = .ok ⟨pid, none⟩ ↔ ending = .killed) ∧
    ∀ message, (conclude platform verbose pid s ending).1 = .error (.wait message) ↔
      ∃ cause, ending = .unknown cause ∧ message = (IoError.system cause).message := by
  cases ending <;> simp [conclude, eq_comm]

end Launch

end LuaShell
