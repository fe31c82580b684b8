import LuaShell.Command.Running
import LuaShell.Proofs.Number.Nearest
import LuaShell.Proofs.Number.Numeral
import LuaShell.Proofs.Text.Utf8

/-!
# Exit codes

An integer can be handed to `quit` as itself, as a numeral and as a double (`Writes`), and it asks
for itself in each way if it is an exit code.  Beyond the bounds a numeral and a double ask for the
nearest code, which a numeral does by way of the double nearest to it, and the integer itself asks
for one.  So the ways agree exactly on the integers that are exit codes (`quit_same_code_iff`).
-/

namespace LuaShell.RunCommand

open Lua (Value)

/-- The ways to write an integer: as itself, as a numeral between blanks, and as a double. -/
inductive Writes (n : Int64) : Value → Prop where
  | integer : Writes n (.int n)
  | numeral (front back : String) (hfront : ∀ c ∈ front.toList, Text.isBlank c = true)
      (hback : ∀ c ∈ back.toList, Text.isBlank c = true) :
      Writes n (.ofString (front ++ (Value.intText n ++ back)))
  | double (x : Float) (hx : (Binary64.ofFloat x).value? = some (n.toInt : ℚ)) : Writes n (.num x)

/-- An integer that is an exit code. -/
def IsCode (n : Int64) : Prop :=
  minCode ≤ n.toInt ∧ n.toInt ≤ maxCode

instance (n : Int64) : Decidable (IsCode n) :=
  inferInstanceAs (Decidable (_ ∧ _))

/-- The exit code nearest to an integer. -/
def nearestCode (n : Int64) : Int :=
  max minCode (min maxCode n.toInt)

theorem nearestCode_of_isCode {n : Int64} (hn : IsCode n) : nearestCode n = n.toInt := by
  unfold nearestCode
  obtain ⟨hlow, hhigh⟩ := hn
  omega

theorem nearestCode_ne_one {n : Int64} (hn : ¬ IsCode n) : nearestCode n ≠ 1 := by
  unfold IsCode at hn
  unfold nearestCode minCode maxCode at *
  omega

theorem natAbs_toInt_lt (n : Int64) : n.toInt.natAbs < 2 ^ 64 := by
  have hlow := Int64.le_toInt n
  have hhigh := Int64.toInt_lt n
  omega

/-! ## Numerals -/

theorem trim_numeral {front back : String} (hfront : ∀ c ∈ front.toList, Text.isBlank c = true)
    (hback : ∀ c ∈ back.toList, Text.isBlank c = true) (n : Int64) :
    Text.trim (front ++ (Value.intText n ++ back)).toList = Read.numeral n.toInt := by
  rw [String.toList_append, String.toList_append, Value.intText, Read.toList_toString]
  exact Text.trim_between hfront hback (Read.numeral_ne_nil _) fun _ => Read.isBlank_of_mem_numeral

/-- The double nearest to an integer that is no exit code is beyond the same bound. -/
theorem clamped_nearest {n : Int64} (hn : ¬ IsCode n) :
    (Binary64.ofFloat (Binary64.nearest (decide (n.toInt < 0)) n.toInt.natAbs 1)).clamped
      minCode maxCode = nearestCode n := by
  have hlarge : 2 ^ 31 ≤ n.toInt.natAbs := by
    unfold IsCode minCode maxCode at hn
    omega
  have hne : n.toInt.natAbs ≠ 0 := by omega
  have hlog : n.toInt.natAbs.log2 < 64 := (Nat.log2_lt hne).mpr (natAbs_toInt_lt n)
  obtain ⟨t, ht, htruncated⟩ := Binary64.truncated?_nearest (decide (n.toInt < 0)) hne
    (Nat.lt_trans hlog (by decide))
  have hlead : 2 ^ 31 ≤ t :=
    Nat.le_trans (Nat.pow_le_pow_right (by decide) ((Nat.le_log2 hne).mpr hlarge)) ht
  rw [Binary64.clamped_of_truncated? htruncated (by decide), nearestCode]
  unfold IsCode at hn
  unfold minCode maxCode at *
  by_cases hneg : n.toInt < 0
  · simp only [hneg, decide_true, if_true]
    omega
  · simp only [hneg, decide_false, Bool.false_eq_true, if_false]
    omega

/-- A numeral asks for the exit code nearest to the integer. -/
theorem exitCode_numeral {front back : String} (hfront : ∀ c ∈ front.toList, Text.isBlank c = true)
    (hback : ∀ c ∈ back.toList, Text.isBlank c = true) (n : Int64) :
    exitCode (front ++ (Value.intText n ++ back)) = nearestCode n := by
  unfold exitCode
  simp only [trim_numeral hfront hback]
  by_cases hn : IsCode n
  · have hread : Read.intWithin? minCode maxCode (Read.numeral n.toInt) = some n.toInt :=
      (Read.intWithin?_numeral minCode maxCode n.toInt).trans (if_pos hn)
    rw [hread, nearestCode_of_isCode hn]
  · have hread : Read.intWithin? minCode maxCode (Read.numeral n.toInt) = none :=
      (Read.intWithin?_numeral minCode maxCode n.toInt).trans (if_neg hn)
    have hne : n.toInt ≠ 0 := by
      intro hzero
      exact hn (by rw [IsCode, hzero]; decide)
    have hsize : (Nat.toDigits 10 n.toInt.natAbs).length ≤ 20 :=
      Nat.toDigits_length 10 _ 20 (by decide) (Nat.lt_trans (natAbs_toInt_lt n) (by decide))
    rw [hread, Read.float?_numeral hne (Nat.le_trans hsize (by decide))]
    exact clamped_nearest hn

/-! ## Leaving -/

theorem quitCode_int (n : Int64) (rest : List Value) :
    quitCode ⟨"quit", .int n :: rest⟩ = .ok (if IsCode n then n.toInt else 1) := by
  simp only [quitCode, Arguments.get?, List.getElem?_cons_zero, Bool.and_eq_true,
    decide_eq_true_eq]
  rfl

theorem quitCode_ofString (text : String) (rest : List Value) :
    quitCode ⟨"quit", .ofString text :: rest⟩ = .ok (exitCode text) := by
  simp only [quitCode, Arguments.get?, Value.ofString, List.getElem?_cons_zero, Arguments.text,
    Text.ofBytes?_toUTF8]
  rfl

/-- Written in any other way an integer asks for the exit code nearest to it. -/
theorem quitCode_of_writes {n : Int64} {v : Value} (hv : Writes n v) (hother : v ≠ .int n)
    (rest : List Value) : quitCode ⟨"quit", v :: rest⟩ = .ok (nearestCode n) := by
  cases hv with
  | integer => exact absurd rfl hother
  | numeral front back hfront hback =>
      rw [quitCode_ofString, exitCode_numeral hfront hback]
  | double x hx =>
      have hclamped : (Binary64.ofFloat x).clamped minCode maxCode = nearestCode n :=
        Binary64.clamped_of_truncated? (Binary64.truncated?_of_value? hx) (by decide)
      simp [quitCode, Arguments.get?, hclamped]

theorem quit_of_quitCode {values : List Value} {c : Int} (hcode : quitCode ⟨"quit", values⟩ = .ok c)
    (h : Host) : quit values h = (.error (.command (.exit c)), h) := by
  simp only [quit, hcode]

/-- An integer asks for itself if it is an exit code, and for one if it is none; written as a numeral
or as a double it asks for the nearest exit code.  So all ways to write it ask for the same code
exactly if it is an exit code, and then it is this code. -/
theorem quit_same_code_iff (n : Int64) (rest : List Value) (h : Host) :
    (IsCode n → ∀ v, Writes n v →
      quit (v :: rest) h = (.error (.command (.exit n.toInt)), h)) ∧
    (¬ IsCode n → quit (.int n :: rest) h = (.error (.command (.exit 1)), h)) ∧
    (∀ v, Writes n v → v ≠ .int n →
      quit (v :: rest) h = (.error (.command (.exit (nearestCode n))), h)) ∧
    ((∀ v w, Writes n v → Writes n w → quit (v :: rest) h = quit (w :: rest) h) ↔ IsCode n) := by
  have hint := quit_of_quitCode (quitCode_int n rest) h
  have hother : ∀ v, Writes n v → v ≠ .int n →
      quit (v :: rest) h = (.error (.command (.exit (nearestCode n))), h) :=
    fun v hv hne => quit_of_quitCode (quitCode_of_writes hv hne rest) h
  have hcode : IsCode n → ∀ v, Writes n v →
      quit (v :: rest) h = (.error (.command (.exit n.toInt)), h) := by
    intro hn v hv
    by_cases hne : v = .int n
    · rw [hne, hint, if_pos hn]
    · rw [hother v hv hne, nearestCode_of_isCode hn]
  refine ⟨hcode, fun hn => by rw [hint, if_neg hn], hother, ?_⟩
  constructor
  · intro hsame
    by_contra hn
    have hnumeral : Writes n (.ofString ("" ++ (Value.intText n ++ ""))) :=
      .numeral "" "" (by simp) (by simp)
    have hcodes := hsame _ _ .integer hnumeral
    rw [hint, if_neg hn, hother _ hnumeral (by simp [Value.ofString])] at hcodes
    exact nearestCode_ne_one hn (by simpa using hcodes.symm)
  · intro hn v w hv hw
    rw [hcode hn v hv, hcode hn w hw]

/-- A negative code between blanks, and as a double. -/
theorem quit_same_code_negative :
    let h : Host := ⟨.empty, [], ⟨Path.ofString "/", none⟩, .plain, .unsupported, .off, [], .empty,
      .empty, #[], 0, 0⟩
    IsCode (-7) ∧ Writes (-7) (.ofString " -7\n") ∧
      Writes (-7) (.num (Float.ofBits 0xC01C000000000000)) ∧
      quit [.ofString " -7\n"] h = (.error (.command (.exit (-7))), h) ∧
      quit [.num (Float.ofBits 0xC01C000000000000)] h = (.error (.command (.exit (-7))), h) := by
  intro h
  have hn : IsCode (-7) := by unfold IsCode; decide
  have hspelled : " " ++ (Value.intText (-7) ++ "\n") = " -7\n" := by decide
  have hspace : Text.isBlank ' ' = true ∧ Text.isBlank '\n' = true := by decide
  have htext : Writes (-7) (.ofString " -7\n") :=
    hspelled ▸ .numeral " " "\n" (by simp [hspace]) (by simp [hspace])
  have hdouble : Writes (-7) (.num (Float.ofBits 0xC01C000000000000)) :=
    .double _ (Binary64.exactInt?_eq_some_iff.mp (by decide))
  have hcode := (quit_same_code_iff (-7) [] h).1 hn
  exact ⟨hn, htext, hdouble, hcode _ htext, hcode _ hdouble⟩

/-- The least integer above the exit codes asks for different ones. -/
theorem quit_above_codes :
    Writes 2147483648 (.int 2147483648) ∧ Writes 2147483648 (.ofString "2147483648") ∧
      Writes 2147483648 (.num (Float.ofBits 0x41E0000000000000)) ∧
      quitCode ⟨"quit", [.int 2147483648]⟩ = .ok 1 ∧
      quitCode ⟨"quit", [.ofString "2147483648"]⟩ = .ok 2147483647 ∧
      quitCode ⟨"quit", [.num (Float.ofBits 0x41E0000000000000)]⟩ = .ok 2147483647 := by
  have hspelled : "" ++ (Value.intText 2147483648 ++ "") = "2147483648" := by decide
  have htext : Writes 2147483648 (.ofString "2147483648") :=
    hspelled ▸ .numeral "" "" (by simp) (by simp)
  have hdouble : Writes 2147483648 (.num (Float.ofBits 0x41E0000000000000)) :=
    .double _ (Binary64.exactInt?_eq_some_iff.mp (by decide))
  exact ⟨.integer, htext, hdouble, by rfl, quitCode_of_writes htext (by simp [Value.ofString]) [],
    quitCode_of_writes hdouble (by simp) []⟩

end LuaShell.RunCommand
