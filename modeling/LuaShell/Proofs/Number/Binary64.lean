import LuaShell.Number.Binary64
import Mathlib

/-!
# The number that a double is

A finite double is a fraction whose denominator is a power of two.  The integer that is read off its
bits is that fraction if the fraction is an integer, and nothing is read off any other double
(`exactInt?_eq_some_iff`).
-/

namespace LuaShell.Binary64

/-- The number that a double is, if it is one. -/
def value? : Binary64 → Option ℚ
  | .finite negative m q => some ((if negative then -1 else 1) * m * 2 ^ q)
  | _ => none

/-- A natural number with a sign, as an integer and as a fraction. -/
theorem signed_eq_iff (negative : Bool) (m : Nat) (n : ℤ) :
    (if negative then -(m : ℤ) else m) = n ↔ (if negative then -1 else 1) * (m : ℚ) = n := by
  cases negative
  · simp only [Bool.false_eq_true, if_false, one_mul]
    exact_mod_cast Iff.rfl
  · simp only [if_true, neg_one_mul]
    exact_mod_cast Iff.rfl

/-- A quotient with a sign that is an integer has no remainder. -/
theorem dvd_of_signed_div {negative : Bool} {m d : Nat} {n : ℤ} (hd : d ≠ 0)
    (h : (if negative then -1 else 1) * ((m : ℚ) / d) = n) : d ∣ m := by
  have hq : (d : ℚ) ≠ 0 := by exact_mod_cast hd
  have hm : (m : ℚ) = (if negative then -n else n : ℤ) * d := by
    cases negative
    · have h : (m : ℚ) / d = n := by simpa using h
      simpa using (div_eq_iff hq).mp h
    · have h : (m : ℚ) / d = -n := by simpa [neg_eq_iff_eq_neg] using h
      simpa using (div_eq_iff hq).mp h
  have hint : (m : ℤ) = (if negative then -n else n) * d := by exact_mod_cast hm
  exact Int.natCast_dvd_natCast.mp ⟨_, hint.trans (mul_comm _ _)⟩

theorem exactInt?_eq_some_iff {x : Binary64} {n : ℤ} :
    x.exactInt? = some n ↔ x.value? = some (n : ℚ) := by
  match x with
  | .nan => simp [exactInt?, value?]
  | .infinite _ => simp [exactInt?, value?]
  | .finite negative m (.ofNat k) =>
      have hpow : ((m * Nat.pow 2 k : Nat) : ℚ) = (m : ℚ) * 2 ^ k := by
        simp
      simp only [exactInt?, value?, Int.ofNat_eq_natCast, Int.natCast_nonneg, if_true,
        Int.toNat_natCast, zpow_natCast, Option.some_inj]
      rw [mul_assoc, ← hpow]
      exact signed_eq_iff negative _ n
  | .finite negative m (.negSucc k) =>
      have hneg : ¬ 0 ≤ Int.negSucc k := by omega
      have hd : (2 : Nat) ^ (k + 1) ≠ 0 := by positivity
      have hcast : ((2 ^ (k + 1) : Nat) : ℚ) = 2 ^ (k + 1) := by simp
      simp only [exactInt?, value?, hneg, if_false, Int.neg_negSucc, Int.toNat_natCast,
        Nat.pow_eq, zpow_negSucc, ← div_eq_mul_inv, mul_div_assoc,
        Option.some_inj]
      rw [← hcast]
      -- With a remainder there is no integer on either side.
      by_cases hdvd : 2 ^ (k + 1) ∣ m
      · rw [if_pos (Nat.mod_eq_zero_of_dvd hdvd), Option.some_inj,
          ← Nat.cast_div hdvd (by exact_mod_cast hd)]
        exact signed_eq_iff negative _ n
      · rw [if_neg (mt Nat.dvd_of_mod_eq_zero hdvd)]
        exact iff_of_false (by simp) (mt (dvd_of_signed_div hd) hdvd)

end LuaShell.Binary64
