import LuaShell.Proofs.Number.Binary64
import Mathlib

/-!
# The double nearest to a natural number

A natural number is rounded to fifty-three digits and a power of two, and these are the fields of a
normal double, which is read back as it was written (`ofBits_normal`, `toBits_ofBits`).  Rounding
can carry into one digit more; then the power is the next one, and the digits are the least that
there are (`divNearest_of_carry`).  So the double nearest to a number is not below the power of two
that the number begins with (`truncated?_nearest`).
-/

namespace LuaShell.Binary64

/-! ## Bits -/

open Float.Model.UnpackedFloat in
/-- A double has the bits that it is built from, if they are those of a number. -/
theorem toBits_ofBits {b : UInt64} (hnumber : b.toNat / leadBit % 2048 ≠ topField) :
    (Float.ofBits b).toBits = b := by
  have hfield : @unpackExponent .binary64 b.toBitVec ≠ -1#_ := by
    intro hones
    refine hnumber ?_
    have htop := congrArg BitVec.toNat hones
    rw [unpackExponent_def, BitVec.extractLsb'_toNat, Nat.shiftRight_eq_div_pow] at htop
    exact htop
  have hbits : @isNaNBits .binary64 b.toBitVec = false :=
    decide_eq_false fun hnan => hfield hnan.1
  have hpack := @pack_unpack .binary64 b.toBitVec (by decide)
  rw [hbits] at hpack
  exact UInt64.toBitVec_inj.mp hpack

/-- The three fields are read apart again when they are put side by side. -/
theorem fields_packed (negative : Bool) {field fraction : Nat} (hfield : field < 2048)
    (hfraction : fraction < leadBit) :
    let n := signBits negative + field * leadBit + fraction
    n < 2 ^ 64 ∧ decide (signBit ≤ n) = negative ∧ n / leadBit % 2048 = field ∧
      n % leadBit = fraction := by
  unfold leadBit at *
  cases negative with
  | false =>
      simp only [signBits, signBit, Bool.false_eq_true, if_false, decide_eq_false_iff_not]
      omega
  | true =>
      simp only [signBits, signBit, if_true, decide_eq_true_eq]
      omega

/-- The bits of a normal double. -/
def normalBits (negative : Bool) (m : Nat) (e : Int) : UInt64 :=
  UInt64.ofNat (signBits negative + (e + 1075).toNat * leadBit + (m - leadBit))

/-- The fields of a normal double are read as they are written. -/
theorem ofBits_normal {m : Nat} {e : Int} (negative : Bool) (hlow : leadBit ≤ m)
    (hhigh : m < 2 * leadBit) (he : minExponent ≤ e) (he' : e ≤ 971) :
    (normalBits negative m e).toNat / leadBit % 2048 ≠ topField ∧
      ofBits (normalBits negative m e) = .finite negative m e := by
  unfold minExponent at he
  have hfield : (e + 1075).toNat ≠ topField ∧ (e + 1075).toNat ≠ 0 := by
    unfold topField
    omega
  have hexponent : (((e + 1075).toNat : Nat) : Int) - 1075 = e := by omega
  obtain ⟨hlt, hsign, hread, hfraction⟩ := fields_packed negative
    (show (e + 1075).toNat < 2048 by omega) (show m - leadBit < leadBit by omega)
  have hnat : (normalBits negative m e).toNat =
      signBits negative + (e + 1075).toNat * leadBit + (m - leadBit) := by
    rw [normalBits, UInt64.toNat_ofNat', Nat.mod_eq_of_lt hlt]
  have hm : leadBit + (m - leadBit) = m := Nat.add_sub_cancel' hlow
  constructor
  · rw [hnat, hread]
    exact hfield.1
  · simp only [ofBits, hnat, hsign, hread, hfraction, hfield, if_false, hexponent, hm]

/-! ## Rounding -/

theorem le_divNearest (num den : Nat) : num / den ≤ divNearest num den := by
  unfold divNearest
  dsimp only
  split <;> omega

theorem divNearest_one (num : Nat) : divNearest num 1 = num := by
  simp [divNearest, Nat.mod_one]

/-- When rounding carries into one digit more, the number is rounded to a power of two. -/
theorem divNearest_of_carry {num den bound : Nat} (hden : 0 < den) (hbound : 0 < bound)
    (hlt : num < 2 * bound * den) (hcarry : 2 * bound ≤ divNearest num den) :
    divNearest num (den * 2) = bound := by
  have hdiv : num / den < 2 * bound := Nat.div_lt_of_lt_mul (by rwa [Nat.mul_comm])
  have hup : den ≤ 2 * (num % den) ∧ num / den = 2 * bound - 1 := by
    unfold divNearest at hcarry
    dsimp only at hcarry
    split at hcarry
    · next h =>
        simp only [Bool.or_eq_true, Bool.and_eq_true, decide_eq_true_eq] at h
        omega
    · omega
  -- Half the quotient leaves a remainder of more than a half.
  have hhalf : num / (den * 2) = bound - 1 := by
    rw [← Nat.div_div_eq_div_mul, hup.2]
    omega
  have hrest : num % (den * 2) = num % den + den := by
    rw [Nat.mod_mul, hup.2, show (2 * bound - 1) % 2 = 1 by omega, Nat.mul_one]
  unfold divNearest
  dsimp only
  rw [if_pos, hhalf]
  · omega
  · rw [hrest, Bool.or_eq_true, decide_eq_true_eq]
    omega

section Scaled

variable {n : Nat}

theorem scaledNearest_natCast (n k : Nat) : scaledNearest n 1 k = n * 2 ^ k := by
  simp [scaledNearest, divNearest_one]

theorem scaledNearest_neg_natCast (n k : Nat) : scaledNearest n 1 (-k) = divNearest n (2 ^ k) := by
  unfold scaledNearest
  rcases Nat.eq_zero_or_pos k with rfl | hk
  · simp
  · rw [if_neg (by omega)]
    simp

/-- A number that is scaled and rounded is not below the power of two that it begins with. -/
theorem two_pow_le_scaledNearest (hn : n ≠ 0) {k : Int} {j : Nat} (hj : (n.log2 : Int) + k = j) :
    2 ^ j ≤ scaledNearest n 1 k := by
  have hlead : 2 ^ n.log2 ≤ n := Nat.log2_self_le hn
  rcases Int.eq_nat_or_neg k with ⟨i, rfl | rfl⟩
  · rw [scaledNearest_natCast, show j = n.log2 + i by omega, Nat.pow_add]
    exact Nat.mul_le_mul_right _ hlead
  · rw [scaledNearest_neg_natCast]
    refine Nat.le_trans ?_ (le_divNearest n (2 ^ i))
    rw [Nat.le_div_iff_mul_le (Nat.two_pow_pos i), ← Nat.pow_add, show j + i = n.log2 by omega]
    exact hlead

/-- A number that does not fit into fifty-three digits once it is rounded is rounded to a power
of two. -/
theorem scaledNearest_of_not_fits
    (hfull : ¬ scaledNearest n 1 (-((n.log2 : Int) - 52)) < 2 * leadBit) :
    scaledNearest n 1 (-((n.log2 : Int) - 52 + 1)) = leadBit := by
  have hlt : n < 2 ^ (n.log2 + 1) := Nat.lt_log2_self
  rcases Nat.lt_or_ge n.log2 52 with hsmall | hlarge
  · -- A small number is not rounded at all.
    refine absurd ?_ hfull
    rw [show -((n.log2 : Int) - 52) = (52 - n.log2 : Nat) by omega, scaledNearest_natCast]
    calc n * 2 ^ (52 - n.log2) < 2 ^ (n.log2 + 1) * 2 ^ (52 - n.log2) :=
          Nat.mul_lt_mul_of_pos_right hlt (Nat.two_pow_pos _)
      _ = 2 * leadBit := by
          rw [← Nat.pow_add, show n.log2 + 1 + (52 - n.log2) = 53 by omega]
          rfl
  · obtain ⟨k, hk⟩ : ∃ k, n.log2 = 52 + k := ⟨n.log2 - 52, by omega⟩
    rw [show -((n.log2 : Int) - 52) = -(k : Nat) by omega, scaledNearest_neg_natCast,
      Nat.not_lt] at hfull
    rw [show -((n.log2 : Int) - 52 + 1) = -((k + 1 : Nat) : Int) by omega,
      scaledNearest_neg_natCast, Nat.pow_succ]
    refine divNearest_of_carry (Nat.two_pow_pos k) (by decide) ?_ hfull
    rwa [hk, show 52 + k + 1 = 53 + k by omega, Nat.pow_add] at hlt

end Scaled

/-! ## The nearest double -/

/-- A quotient is rounded to the fields of a normal double if it has fifty-three digits at the
exponent that is chosen for it. -/
theorem ofRatio_eq_normalBits {num den m : Nat} {guess e : Int} (negative : Bool) (hnum : num ≠ 0)
    (hden : den ≠ 0) (hguess : (num.log2 : Int) - den.log2 - 52 = guess)
    (hchosen : (if scaledNearest num den (-(guess - 1)) < 2 * leadBit then guess - 1
      else if scaledNearest num den (-guess) < 2 * leadBit then guess else guess + 1) = e)
    (hm : scaledNearest num den (-e) = m) (hlow : leadBit ≤ m) (hhigh : m < 2 * leadBit)
    (he : minExponent ≤ e) (he' : e ≤ 971) :
    ofRatio negative num den = normalBits negative m e := by
  have hsmall : ¬ e < minExponent := Int.not_lt.mpr he
  have hlarge : ¬ 971 < e := Int.not_lt.mpr he'
  have hcarried : m ≠ 2 * leadBit := Nat.ne_of_lt hhigh
  have hnormal : ¬ m < leadBit := Nat.not_lt.mpr hlow
  unfold ofRatio
  rw [if_neg (by simp [hnum, hden])]
  simp only [hguess, hchosen, hsmall, hm, hcarried, hlarge, hnormal, if_false]
  rfl

/-- A natural number is rounded to the fields of a normal double, whose power of two is at least the
one that leaves fifty-three digits of the number. -/
theorem ofFloat_nearest {n : Nat} (negative : Bool) (hn : n ≠ 0) (hlog : n.log2 < 1023) :
    ∃ m e, leadBit ≤ m ∧ (n.log2 : Int) - 52 ≤ e ∧
      ofFloat (nearest negative n 1) = .finite negative m e := by
  obtain ⟨guess, hguess⟩ : ∃ guess : Int, guess = (n.log2 : Int) - 52 := ⟨_, rfl⟩
  have hone : (n.log2 : Int) - Nat.log2 1 - 52 = guess := by
    rw [hguess, show Nat.log2 1 = 0 by decide, Int.natCast_zero, Int.sub_zero]
  -- The power before leaves a digit too many.
  have hbefore : ¬ scaledNearest n 1 (-(guess - 1)) < 2 * leadBit :=
    Nat.not_lt.mpr (two_pow_le_scaledNearest hn (j := 53) (by omega))
  obtain ⟨m, e, hlow, hhigh, he, hratio⟩ : ∃ m e, leadBit ≤ m ∧ m < 2 * leadBit ∧
      (guess ≤ e ∧ minExponent ≤ e ∧ e ≤ 971) ∧ ofRatio negative n 1 = normalBits negative m e := by
    by_cases hfits : scaledNearest n 1 (-guess) < 2 * leadBit
    · have hrange : minExponent ≤ guess ∧ guess ≤ 971 := by
        unfold minExponent
        omega
      have hlow : leadBit ≤ scaledNearest n 1 (-guess) :=
        two_pow_le_scaledNearest hn (j := 52) (by omega)
      exact ⟨_, guess, hlow, hfits, ⟨Int.le_refl _, hrange⟩,
        ofRatio_eq_normalBits negative hn Nat.one_ne_zero hone
          (by rw [if_neg hbefore, if_pos hfits]) rfl hlow hfits hrange.1 hrange.2⟩
    · have hrange : minExponent ≤ guess + 1 ∧ guess + 1 ≤ 971 := by
        unfold minExponent
        omega
      exact ⟨leadBit, guess + 1, Nat.le_refl _, by decide, ⟨by omega, hrange⟩,
        ofRatio_eq_normalBits negative hn Nat.one_ne_zero hone
          (by rw [if_neg hbefore, if_neg hfits]) (hguess ▸ scaledNearest_of_not_fits (hguess ▸ hfits))
          (Nat.le_refl _) (by decide) hrange.1 hrange.2⟩
  obtain ⟨hnumber, hfields⟩ := ofBits_normal negative hlow hhigh he.2.1 he.2.2
  refine ⟨m, e, hlow, by omega, ?_⟩
  rw [ofFloat, nearest, hratio, toBits_ofBits hnumber, hfields]

/-- The double nearest to a natural number is not below the power of two that the number begins
with. -/
theorem truncated?_nearest {n : Nat} (negative : Bool) (hn : n ≠ 0) (hlog : n.log2 < 1023) :
    ∃ t : Nat, 2 ^ n.log2 ≤ t ∧
      (ofFloat (nearest negative n 1)).truncated? = some (if negative then -(t : Int) else t) := by
  obtain ⟨m, e, hlow, he, hfloat⟩ := ofFloat_nearest negative hn hlog
  refine ⟨if 0 ≤ e then m * Nat.pow 2 e.toNat else m / Nat.pow 2 (-e).toNat, ?_, ?_⟩
  · have hlead : 2 ^ 52 ≤ m := hlow
    split
    · calc 2 ^ n.log2 ≤ 2 ^ (52 + e.toNat) := Nat.pow_le_pow_right (by decide) (by omega)
        _ = 2 ^ 52 * 2 ^ e.toNat := Nat.pow_add ..
        _ ≤ m * Nat.pow 2 e.toNat := Nat.mul_le_mul_right _ hlead
    · rw [Nat.pow_eq, Nat.le_div_iff_mul_le (Nat.two_pow_pos _), ← Nat.pow_add]
      exact Nat.le_trans (Nat.pow_le_pow_right (by decide) (by omega)) hlead
  · rw [hfloat]
    rfl

/-! ## Integers of a range -/

/-- A double with an integral part is clamped to the bounds. -/
theorem clamped_of_truncated? {x : Binary64} {n lo hi : Int} (hx : x.truncated? = some n)
    (hbounds : lo ≤ hi) : x.clamped lo hi = max lo (min hi n) := by
  match x with
  | .nan => cases hx
  | .infinite _ => cases hx
  | .finite negative m q =>
      simp only [clamped, hx]
      omega

/-- A double that is an integer has this integer for its integral part. -/
theorem truncated?_of_value? {x : Binary64} {n : ℤ} (hx : x.value? = some (n : ℚ)) :
    x.truncated? = some n := by
  have hexact := exactInt?_eq_some_iff.mpr hx
  match x with
  | .nan => cases hexact
  | .infinite _ => cases hexact
  | .finite negative m q =>
      simp only [exactInt?] at hexact
      simp only [truncated?]
      by_cases hq : 0 ≤ q
      · rwa [if_pos hq] at hexact ⊢
      · rw [if_neg hq] at hexact ⊢
        split at hexact
        · exact hexact
        · cases hexact

end LuaShell.Binary64
