import LuaShell.Number.Read
import LuaShell.Text.Blank
import Mathlib

/-!
# Numerals in texts

The digits of a number are read back as the number, and blanks around them are cut off.  A numeral
is an integer of a range exactly if the integer is in the range (`intWithin?_numeral`).  As a double
it is the one nearest to the integer (`float?_numeral`).
-/

namespace LuaShell

namespace Text

/-! ## Digits and blanks -/

/-- The digits of a number are read back as the number. -/
theorem natOfDigits?_toDigits (n : Nat) : natOfDigits? (Nat.toDigits 10 n) = some n := by
  have hdigits : (Nat.toDigits 10 n).all Char.isDigit = true :=
    List.all_eq_true.mpr fun c hc => Nat.isDigit_of_mem_toDigits (by omega) (by omega) hc
  have hempty : (Nat.toDigits 10 n).isEmpty = false := by simp
  simp only [natOfDigits?, hdigits, hempty, Bool.not_true, Bool.or_self, Bool.false_eq_true,
    if_false]
  exact congrArg some Nat.ofDigitChars_ten_toDigits

theorem isDigit_of_mem_toDigits {n : Nat} {c : Char} (hc : c ∈ Nat.toDigits 10 n) :
    isDigit c = true := by
  have hdigit : c.isDigit = true := Nat.isDigit_of_mem_toDigits (by omega) (by omega) hc
  have hsmall : c.toNat < 128 := by
    obtain ⟨-, hle⟩ := Char.isDigit_iff_toNat.mp hdigit
    exact Nat.lt_of_le_of_lt hle (by decide)
  rw [isDigit, if_pos hsmall, hdigit]

/-- Blanks around a text that has none at its ends are cut off. -/
theorem trim_between {front back cs : List Char} (hfront : ∀ c ∈ front, isBlank c = true)
    (hback : ∀ c ∈ back, isBlank c = true) (hne : cs ≠ [])
    (hcs : ∀ c ∈ cs, isBlank c = false) : trim (front ++ (cs ++ back)) = cs := by
  obtain ⟨first, rest, rfl⟩ := List.exists_cons_of_ne_nil hne
  have hstart : trimStart (front ++ (first :: rest ++ back)) = first :: rest ++ back := by
    rw [trimStart, List.dropWhile_append_of_pos hfront, List.cons_append,
      List.dropWhile_cons_of_neg (by simp [hcs])]
  obtain ⟨init, last, hlast⟩ := List.eq_nil_or_concat (first :: rest) |>.resolve_left hne
  have hback' : ∀ c ∈ back.reverse, isBlank c = true := by simpa using hback
  have hnot : ¬ isBlank last = true := by
    rw [hcs last (by simp [hlast])]
    exact Bool.false_ne_true
  rw [trim, hstart, hlast, trimEnd, List.reverse_append, List.dropWhile_append_of_pos hback']
  simp [hnot]

end Text

namespace Read

/-! ## Numerals -/

/-- An integer in decimal digits. -/
def numeral (n : Int) : List Char :=
  if n < 0 then '-' :: Nat.toDigits 10 n.natAbs else Nat.toDigits 10 n.natAbs

theorem toList_toString (n : Int) : (toString n).toList = numeral n := by
  rw [Int.toString_eq_repr, Int.repr_eq_if, numeral]
  by_cases hn : n < 0
  · rw [if_neg (by omega), if_pos hn, String.toList_append, Nat.toList_repr,
      show (-n).toNat = n.natAbs by omega]
    rfl
  · rw [if_pos (by omega), if_neg hn, Nat.toList_repr, show n.toNat = n.natAbs by omega]

theorem numeral_ne_nil (n : Int) : numeral n ≠ [] := by
  unfold numeral
  split
  · exact List.cons_ne_nil _ _
  · exact Nat.toDigits_ne_nil

theorem isBlank_of_mem_numeral {n : Int} {c : Char} (hc : c ∈ numeral n) :
    Text.isBlank c = false := by
  have hdigit : ∀ c ∈ Nat.toDigits 10 n.natAbs, Text.isBlank c = false := by
    intro c hc
    have hascii : 48 ≤ c.toNat ∧ c.toNat ≤ 57 :=
      Char.isDigit_iff_toNat.mp (Nat.isDigit_of_mem_toDigits (by omega) (by omega) hc)
    have hblank := Text.isBlank_ascii ⟨c.toNat, by omega⟩
    rw [Char.ofNat_toNat] at hblank
    rw [hblank, decide_eq_false_iff_not]
    dsimp only
    omega
  unfold numeral at hc
  split at hc
  · rcases List.mem_cons.mp hc with rfl | hc
    · decide
    · exact hdigit c hc
  · exact hdigit c hc

/-- A sign stands apart from the digits. -/
theorem sign_numeral (n : Int) :
    sign (numeral n) = (decide (n < 0), Nat.toDigits 10 n.natAbs) := by
  unfold numeral
  by_cases hn : n < 0
  · simp [hn, sign]
  · rw [if_neg hn, decide_eq_false hn]
    unfold sign
    split
    · next hdigits =>
        exact absurd (Text.isDigit_of_mem_toDigits (hdigits ▸ List.mem_cons_self)) (by decide)
    · next hdigits =>
        exact absurd (Text.isDigit_of_mem_toDigits (hdigits ▸ List.mem_cons_self)) (by decide)
    · rfl

theorem intWithin?_numeral (lo hi n : Int) :
    intWithin? lo hi (numeral n) = if lo ≤ n ∧ n ≤ hi then some n else none := by
  have hsigned : (if n < 0 then -(n.natAbs : Int) else n.natAbs) = n := by
    split <;> omega
  simp only [intWithin?, sign_numeral, Text.natOfDigits?_toDigits, decide_eq_true_eq, hsigned,
    Bool.and_eq_true]

theorem decimalParts?_toDigits (k : Nat) :
    decimalParts? (Nat.toDigits 10 k) = some ⟨Nat.toDigits 10 k, [], 0⟩ := by
  have hdigits : ∀ c ∈ Nat.toDigits 10 k, c.isDigit = true :=
    fun c hc => Nat.isDigit_of_mem_toDigits (by omega) (by omega) hc
  have hwhole := List.takeWhile_eq_self_iff.mpr hdigits
  have hrest := List.dropWhile_eq_nil_iff.mpr hdigits
  simp [decimalParts?, hwhole, hrest]

/-- The word of a numeral is none of those that a double may be spelled as. -/
theorem digits_ne_word {k : Nat} {word : String} {c : Char} (hc : c ∈ word.toList)
    (hdigit : Text.isDigit c = false) :
    String.ofList ((Nat.toDigits 10 k).map Char.toLower) ≠ word := by
  rintro rfl
  rw [String.toList_ofList] at hc
  obtain ⟨d, hd, rfl⟩ := List.mem_map.mp hc
  have hd' : d.isDigit = true := Nat.isDigit_of_mem_toDigits (by omega) (by omega) hd
  have hupper : d.toLower = d := by
    obtain ⟨-, hle⟩ := Char.isDigit_iff_toNat.mp hd'
    refine dif_neg fun hcapital => ?_
    have hcapital' : 65 ≤ d.toNat := UInt32.le_iff_toNat_le.mp hcapital.1
    exact absurd (Nat.le_trans hcapital' hle) (by decide)
  rw [hupper, Text.isDigit_of_mem_toDigits hd] at hdigit
  cases hdigit

/-- A number without an exponent is neither too small nor too large to be rounded. -/
theorem nearestDecimal_zero {k : Nat} (negative : Bool) (hk : k ≠ 0)
    (hsize : (Nat.toDigits 10 k).length ≤ 400) :
    Binary64.nearestDecimal negative k 0 = Binary64.nearest negative k 1 := by
  unfold Binary64.nearestDecimal
  dsimp only
  rw [if_neg, if_neg (by omega), if_pos (Int.le_refl 0)]
  · rw [Int.toNat_zero, Nat.pow_eq, Nat.pow_zero, Nat.mul_one]
  · rw [Bool.or_eq_true, decide_eq_true_eq, decide_eq_true_eq]
    omega

/-- A numeral is read as the double nearest to the integer. -/
theorem float?_numeral {n : Int} (hn : n ≠ 0)
    (hsize : (Nat.toDigits 10 n.natAbs).length ≤ 400) :
    float? (numeral n) = some (Binary64.nearest (decide (n < 0)) n.natAbs 1) := by
  have hvalue : natOf (Nat.toDigits 10 n.natAbs ++ []) = n.natAbs := by
    rw [natOf, List.append_nil, Text.natOfDigits?_toDigits, Option.getD_some]
  unfold float?
  simp only [sign_numeral]
  rw [if_neg, if_neg (digits_ne_word (c := 'n') (by decide) (by decide)), decimalParts?_toDigits]
  · simp only [Option.map_some, DecimalParts.toFloat, hvalue, List.length_nil, Nat.cast_zero,
      sub_zero, nearestDecimal_zero (decide (n < 0)) (Int.natAbs_ne_zero.mpr hn) hsize]
  · rw [Bool.or_eq_true, decide_eq_true_eq, decide_eq_true_eq]
    rintro (hword | hword)
    · exact digits_ne_word (c := 'i') (by decide) (by decide) hword
    · exact digits_ne_word (c := 'i') (by decide) (by decide) hword

end Read

end LuaShell
