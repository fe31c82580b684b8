import LuaShell.Text.Utf8

/-!
# Texts and their bytes

Both ways of reading bytes give back the text that the bytes came from (`decodeLossy_toBytes`,
`ofBytes?_toUTF8`).  Each goes from one character to the next, so all there is to show is that
the head of what a character is written as, followed by anything, is that character
(`lead_utf8EncodeChar`).

The other way round, bytes are a text only if they are the bytes of that text
(`ofBytes?_eq_ok_iff`), since a head that is a character is what that is written as
(`bytes_of_lead`): there is no second way to write it.
-/

namespace LuaShell.Text

/-! ## The first byte -/

/-- The bounds of the second byte, read off the number of the first. -/
theorem secondByte?_eq (b : UInt8) :
    secondByte? b =
      if b.toNat < 0xC2 then none
      else if b.toNat ≤ 0xDF then some (0x80, 0xBF, 2)
      else if b.toNat = 0xE0 then some (0xA0, 0xBF, 3)
      else if b.toNat = 0xED then some (0x80, 0x9F, 3)
      else if b.toNat ≤ 0xEF then some (0x80, 0xBF, 3)
      else if b.toNat = 0xF0 then some (0x90, 0xBF, 4)
      else if b.toNat ≤ 0xF3 then some (0x80, 0xBF, 4)
      else if b.toNat = 0xF4 then some (0x80, 0x8F, 4)
      else none := by
  simp only [secondByte?, UInt8.lt_iff_toNat_lt, UInt8.le_iff_toNat_le, ← UInt8.toNat_inj,
    UInt8.reduceToNat]

theorem secondByte?_of_two {b : UInt8} (hlow : 0xC2 ≤ b.toNat) (hhigh : b.toNat ≤ 0xDF) :
    secondByte? b = some (0x80, 0xBF, 2) := by
  rw [secondByte?_eq, if_neg (by omega), if_pos hhigh]

/-- The bounds of the second byte leave out what fewer bytes can say, and the surrogates. -/
theorem secondByte?_of_three {b : UInt8} (hlow : 0xE0 ≤ b.toNat) (hhigh : b.toNat ≤ 0xEF) :
    ∃ lo hi, secondByte? b = some (lo, hi, 3) ∧
      lo.toNat = (if b.toNat = 0xE0 then 0xA0 else 0x80) ∧
      hi.toNat = (if b.toNat = 0xED then 0x9F else 0xBF) := by
  rw [secondByte?_eq, if_neg (by omega), if_neg (by omega), if_pos hhigh]
  by_cases hleast : b.toNat = 0xE0
  · exact ⟨0xA0, 0xBF, by rw [if_pos hleast], by simp [hleast], by simp [hleast]⟩
  by_cases hsurrogate : b.toNat = 0xED
  · exact ⟨0x80, 0x9F, by rw [if_neg hleast, if_pos hsurrogate], by simp [hleast],
      by simp [hsurrogate]⟩
  · exact ⟨0x80, 0xBF, by rw [if_neg hleast, if_neg hsurrogate], by simp [hleast],
      by simp [hsurrogate]⟩

/-- The bounds of the second byte leave out what fewer bytes can say, and what is no character. -/
theorem secondByte?_of_four {b : UInt8} (hlow : 0xF0 ≤ b.toNat) (hhigh : b.toNat ≤ 0xF4) :
    ∃ lo hi, secondByte? b = some (lo, hi, 4) ∧
      lo.toNat = (if b.toNat = 0xF0 then 0x90 else 0x80) ∧
      hi.toNat = (if b.toNat = 0xF4 then 0x8F else 0xBF) := by
  rw [secondByte?_eq, if_neg (by omega), if_neg (by omega), if_neg (by omega), if_neg (by omega),
    if_neg (by omega)]
  by_cases hleast : b.toNat = 0xF0
  · exact ⟨0x90, 0xBF, by rw [if_pos hleast], by simp [hleast], by simp [hleast]⟩
  by_cases hlast : b.toNat = 0xF4
  · exact ⟨0x80, 0x8F, by simp [hlast], by simp [hleast], by simp [hlast]⟩
  · exact ⟨0x80, 0xBF, by rw [if_neg hleast, if_pos (by omega)], by simp [hleast], by simp [hlast]⟩

/-! ## One character -/

theorem toNat_ofNat_of_lt {n : Nat} (hn : n < 256) : (UInt8.ofNat n).toNat = n := by
  rw [UInt8.toNat_ofNat']
  omega

theorem lead_of_one {b : UInt8} (hlow : b.toNat < 0x80) (bs : List UInt8) :
    Lead.of b bs = .char (Char.ofNat b.toNat) 1 := by
  have hone : b < 0x80 := by simpa [UInt8.lt_iff_toNat_lt] using hlow
  rw [Lead.of, if_pos hone]

/-- A byte behind the first one, which holds six more bits. -/
def continuation (n : Nat) : UInt8 := UInt8.ofNat (n % 64 + 128)

theorem toNat_continuation (n : Nat) : (continuation n).toNat = n % 64 + 128 :=
  toNat_ofNat_of_lt (by omega)

@[simp] theorem isContinuation_continuation (n : Nat) : isContinuation (continuation n) = true := by
  simp only [isContinuation, UInt8.le_iff_toNat_le, toNat_continuation, UInt8.reduceToNat,
    Bool.and_eq_true, decide_eq_true_eq]
  omega

@[simp] theorem low_continuation (n : Nat) : low (continuation n) = n % 64 := by
  rw [low, toNat_continuation]
  omega

section Longer

variable {b lo hi : UInt8} {size n₂ n₃ n₄ : Nat}

/-- A second byte between its bounds is not refused. -/
theorem within_bounds (hlo : lo.toNat ≤ n₂ % 64 + 128) (hhi : n₂ % 64 + 128 ≤ hi.toNat) :
    (continuation n₂ < lo || hi < continuation n₂) = false := by
  simp [UInt8.lt_iff_toNat_lt, toNat_continuation, hlo, hhi]

theorem not_one_byte (hsecond : secondByte? b = some (lo, hi, size)) : ¬ b < 0x80 := by
  intro hone
  rw [UInt8.lt_iff_toNat_lt] at hone
  have hnone : b.toNat < 0xC2 := Nat.lt_trans hone (by decide)
  rw [secondByte?_eq, if_pos hnone] at hsecond
  cases hsecond

theorem lead_of_two (hsecond : secondByte? b = some (lo, hi, 2))
    (hlo : lo.toNat ≤ n₂ % 64 + 128) (hhi : n₂ % 64 + 128 ≤ hi.toNat) (bs : List UInt8) :
    Lead.of b (continuation n₂ :: bs) =
      .char (Char.ofNat (b.toNat % 32 * 64 + n₂ % 64)) 2 := by
  simp [Lead.of, not_one_byte hsecond, hsecond, within_bounds hlo hhi]

theorem lead_of_three (hsecond : secondByte? b = some (lo, hi, 3))
    (hlo : lo.toNat ≤ n₂ % 64 + 128) (hhi : n₂ % 64 + 128 ≤ hi.toNat) (bs : List UInt8) :
    Lead.of b (continuation n₂ :: continuation n₃ :: bs) =
      .char (Char.ofNat ((b.toNat % 16 * 64 + n₂ % 64) * 64 + n₃ % 64)) 3 := by
  simp [Lead.of, not_one_byte hsecond, hsecond, within_bounds hlo hhi]

theorem lead_of_four (hsecond : secondByte? b = some (lo, hi, 4))
    (hlo : lo.toNat ≤ n₂ % 64 + 128) (hhi : n₂ % 64 + 128 ≤ hi.toNat) (bs : List UInt8) :
    Lead.of b (continuation n₂ :: continuation n₃ :: continuation n₄ :: bs) =
      .char (Char.ofNat (((b.toNat % 8 * 64 + n₂ % 64) * 64 + n₃ % 64) * 64 + n₄ % 64)) 4 := by
  simp [Lead.of, not_one_byte hsecond, hsecond, within_bounds hlo hhi]

end Longer

/-- A character of one byte is that byte; the bytes of all others are above those. -/
theorem toNat_of_mem_utf8EncodeChar {c : Char} {b : UInt8} (hb : b ∈ String.utf8EncodeChar c) :
    b.toNat = c.toNat ∨ 128 ≤ b.toNat := by
  obtain ⟨v, hv⟩ : ∃ v, v = c.val.toNat := ⟨_, rfl⟩
  have hvalid : v < 0xD800 ∨ 0xDFFF < v ∧ v < 0x110000 := hv ▸ c.valid
  change b.toNat = c.val.toNat ∨ 128 ≤ b.toNat
  simp only [String.utf8EncodeChar, ← hv] at hb ⊢
  split at hb
  · left
    rw [List.mem_singleton.mp hb]
    exact toNat_ofNat_of_lt (by omega)
  · right
    have hhigh : ∀ n, 128 ≤ n → n < 256 → b = UInt8.ofNat n → 128 ≤ b.toNat := by
      rintro n hlow hn rfl
      rwa [toNat_ofNat_of_lt hn]
    split at hb
    · simp only [List.mem_cons, List.not_mem_nil, or_false] at hb
      rcases hb with hb | hb <;> exact hhigh _ (by omega) (by omega) hb
    · split at hb
      · simp only [List.mem_cons, List.not_mem_nil, or_false] at hb
        rcases hb with hb | hb | hb <;> exact hhigh _ (by omega) (by omega) hb
      · simp only [List.mem_cons, List.not_mem_nil, or_false] at hb
        rcases hb with hb | hb | hb | hb <;> exact hhigh _ (by omega) (by omega) hb

/-- What a character is written as, followed by anything, begins with that character. -/
theorem lead_utf8EncodeChar (c : Char) (bs : List UInt8) :
    ∃ b rest n, String.utf8EncodeChar c ++ bs = b :: rest ∧ Lead.of b rest = .char c n ∧
      rest.drop (n - 1) = bs := by
  obtain ⟨v, hv⟩ : ∃ v, v = c.val.toNat := ⟨_, rfl⟩
  have hc : Char.ofNat v = c := by rw [hv]; exact Char.ofNat_toNat c
  have hvalid : v < 0xD800 ∨ 0xDFFF < v ∧ v < 0x110000 := hv ▸ c.valid
  -- One case for each number of bytes; `hsum` puts the bits of the character together again.
  simp only [String.utf8EncodeChar, ← hv]
  by_cases h₁ : v ≤ 127
  · have hfirst : (UInt8.ofNat v).toNat = v := toNat_ofNat_of_lt (by omega)
    refine ⟨UInt8.ofNat v, bs, 1, by rw [if_pos h₁]; rfl, ?_, rfl⟩
    rw [lead_of_one (by omega), hfirst, hc]
  by_cases h₂ : v ≤ 2047
  · have hfirst : (UInt8.ofNat (v / 64 % 32 + 192)).toNat = v / 64 % 32 + 192 :=
      toNat_ofNat_of_lt (by omega)
    have hsecond := secondByte?_of_two (b := UInt8.ofNat (v / 64 % 32 + 192)) (by omega) (by omega)
    have hsum : (v / 64 % 32 + 192) % 32 * 64 + v % 64 = v := by omega
    refine ⟨UInt8.ofNat (v / 64 % 32 + 192), continuation v :: bs, 2,
      by rw [if_neg h₁, if_pos h₂]; rfl, ?_, rfl⟩
    rw [lead_of_two hsecond (by simp) (by simp; omega), hfirst, hsum, hc]
  by_cases h₃ : v ≤ 65535
  · have hfirst : (UInt8.ofNat (v / 4096 % 16 + 224)).toNat = v / 4096 % 16 + 224 :=
      toNat_ofNat_of_lt (by omega)
    obtain ⟨lo, hi, hsecond, hlo, hhi⟩ := secondByte?_of_three
      (b := UInt8.ofNat (v / 4096 % 16 + 224)) (by omega) (by omega)
    have hsum : ((v / 4096 % 16 + 224) % 16 * 64 + v / 64 % 64) * 64 + v % 64 = v := by omega
    refine ⟨UInt8.ofNat (v / 4096 % 16 + 224), continuation (v / 64) :: continuation v :: bs, 3,
      by rw [if_neg h₁, if_neg h₂, if_pos h₃]; rfl, ?_, rfl⟩
    rw [lead_of_three hsecond (by rw [hlo, hfirst]; split <;> omega)
      (by rw [hhi, hfirst]; split <;> omega), hfirst, hsum, hc]
  · have hfirst : (UInt8.ofNat (v / 262144 % 8 + 240)).toNat = v / 262144 % 8 + 240 :=
      toNat_ofNat_of_lt (by omega)
    obtain ⟨lo, hi, hsecond, hlo, hhi⟩ := secondByte?_of_four
      (b := UInt8.ofNat (v / 262144 % 8 + 240)) (by omega) (by omega)
    have hsum : (((v / 262144 % 8 + 240) % 8 * 64 + v / 4096 % 64) * 64 + v / 64 % 64) * 64 +
        v % 64 = v := by omega
    refine ⟨UInt8.ofNat (v / 262144 % 8 + 240),
      continuation (v / 4096) :: continuation (v / 64) :: continuation v :: bs, 4,
      by rw [if_neg h₁, if_neg h₂, if_neg h₃]; rfl, ?_, rfl⟩
    rw [lead_of_four hsecond (by rw [hlo, hfirst]; split <;> omega)
      (by rw [hhi, hfirst]; split <;> omega), hfirst, hsum, hc]

/-! ## Texts -/

theorem toBytes_eq_flatMap (text : String) :
    toBytes text = text.toList.flatMap String.utf8EncodeChar := by
  rw [toBytes, String.toUTF8, ← String.utf8Encode_toList, List.utf8Encode, List.data_toByteArray]

theorem toBytes_append (before after : String) :
    toBytes (before ++ after) = toBytes before ++ toBytes after := by
  simp [toBytes_eq_flatMap]

theorem decodeLossy_flatMap (cs : List Char) :
    decodeLossy (cs.flatMap String.utf8EncodeChar) = cs := by
  induction cs with
  | nil => rw [List.flatMap_nil, decodeLossy]
  | cons c cs ih =>
      obtain ⟨b, rest, n, hbytes, hlead, hrest⟩ :=
        lead_utf8EncodeChar c (cs.flatMap String.utf8EncodeChar)
      rw [List.flatMap_cons, hbytes, decodeLossy, hlead]
      simp only [hrest, ih]

theorem decodeFrom_flatMap (done : Nat) (cs : List Char) :
    decodeFrom done (cs.flatMap String.utf8EncodeChar) = .ok cs := by
  induction cs generalizing done with
  | nil => rw [List.flatMap_nil, decodeFrom]
  | cons c cs ih =>
      obtain ⟨b, rest, n, hbytes, hlead, hrest⟩ :=
        lead_utf8EncodeChar c (cs.flatMap String.utf8EncodeChar)
      rw [List.flatMap_cons, hbytes, decodeFrom, hlead]
      simp only [hrest, ih]

/-- A text is what its bytes are read as, ill-formed or not. -/
theorem decodeLossy_toBytes (text : String) : decodeLossy (toBytes text) = text.toList := by
  rw [toBytes_eq_flatMap, decodeLossy_flatMap]

/-- The bytes of a text are well-formed and read as that text. -/
theorem ofBytes?_toUTF8 (text : String) : ofBytes? text.toUTF8 = .ok text := by
  have hbytes : text.toUTF8.data.toList = text.toList.flatMap String.utf8EncodeChar :=
    toBytes_eq_flatMap text
  rw [ofBytes?, decode?, hbytes, decodeFrom_flatMap]
  exact congrArg Except.ok String.ofList_toList

/-! ## Bytes that are read as a text -/

/-- The bounds of the second byte keep the character in the range that its length is for. -/
theorem of_secondByte? {b lo hi : UInt8} {n : Nat} (h : secondByte? b = some (lo, hi, n)) :
    0x80 ≤ lo.toNat ∧ hi.toNat ≤ 0xBF ∧
      (n = 2 ∧ 0xC2 ≤ b.toNat ∧ b.toNat ≤ 0xDF ∨
        n = 3 ∧ 0xE0 ≤ b.toNat ∧ b.toNat ≤ 0xEF ∧ (b.toNat = 0xE0 → 0xA0 ≤ lo.toNat) ∧
          (b.toNat = 0xED → hi.toNat ≤ 0x9F) ∨
        n = 4 ∧ 0xF0 ≤ b.toNat ∧ b.toNat ≤ 0xF4 ∧ (b.toNat = 0xF0 → 0x90 ≤ lo.toNat) ∧
          (b.toNat = 0xF4 → hi.toNat ≤ 0x8F)) := by
  rw [secondByte?_eq] at h
  -- One goal for each row of the table.
  repeat' split at h
  all_goals cases h
  all_goals grind

theorem ofNat_eq {b : UInt8} {n : Nat} (h : n = b.toNat) : UInt8.ofNat n = b := by
  rw [h, UInt8.ofNat_toNat]

theorem continuation_eq {b : UInt8} {n : Nat} (h : n % 64 + 128 = b.toNat) : continuation n = b :=
  ofNat_eq h

theorem isContinuation_iff {b : UInt8} :
    isContinuation b = true ↔ 0x80 ≤ b.toNat ∧ b.toNat ≤ 0xBF := by
  simp [isContinuation, UInt8.le_iff_toNat_le]

theorem utf8EncodeChar_ofNat {v : Nat} (hv : v.isValidChar) :
    String.utf8EncodeChar (Char.ofNat v) =
      if v ≤ 127 then [UInt8.ofNat v]
      else if v ≤ 2047 then [UInt8.ofNat (v / 64 % 32 + 192), continuation v]
      else if v ≤ 65535 then
        [UInt8.ofNat (v / 4096 % 16 + 224), continuation (v / 64), continuation v]
      else
        [UInt8.ofNat (v / 262144 % 8 + 240), continuation (v / 4096), continuation (v / 64),
          continuation v] := by
  have hnat : (Char.ofNat v).val.toNat = v := by
    rw [Char.ofNat, dif_pos hv]
    rfl
  simp only [String.utf8EncodeChar, hnat, continuation]

section

variable {b b₂ b₃ b₄ : UInt8}

theorem utf8EncodeChar_of_one (hb : b.toNat < 0x80) :
    String.utf8EncodeChar (Char.ofNat b.toNat) = [b] := by
  rw [utf8EncodeChar_ofNat (Or.inl (by omega)), if_pos (by omega), UInt8.ofNat_toNat]

theorem utf8EncodeChar_of_two (hb : 0xC2 ≤ b.toNat ∧ b.toNat ≤ 0xDF)
    (hb₂ : 0x80 ≤ b₂.toNat ∧ b₂.toNat ≤ 0xBF) :
    String.utf8EncodeChar (Char.ofNat (b.toNat % 32 * 64 + low b₂)) = [b, b₂] := by
  unfold low
  rw [utf8EncodeChar_ofNat (Or.inl (by omega)), if_neg (by omega), if_pos (by omega),
    ofNat_eq (b := b) (by omega), continuation_eq (b := b₂) (by omega)]

/-- What is left out are the overlong forms and the surrogates. -/
theorem utf8EncodeChar_of_three (hb : 0xE0 ≤ b.toNat ∧ b.toNat ≤ 0xEF)
    (hb₂ : 0x80 ≤ b₂.toNat ∧ b₂.toNat ≤ 0xBF) (hlong : b.toNat = 0xE0 → 0xA0 ≤ b₂.toNat)
    (hsurrogate : b.toNat = 0xED → b₂.toNat ≤ 0x9F) (hb₃ : 0x80 ≤ b₃.toNat ∧ b₃.toNat ≤ 0xBF) :
    String.utf8EncodeChar
      (Char.ofNat ((b.toNat % 16 * 64 + low b₂) * 64 + low b₃)) = [b, b₂, b₃] := by
  unfold low
  have hv : ((b.toNat % 16 * 64 + b₂.toNat % 64) * 64 + b₃.toNat % 64).isValidChar := by
    unfold Nat.isValidChar
    omega
  rw [utf8EncodeChar_ofNat hv, if_neg (by omega), if_neg (by omega), if_pos (by omega),
    ofNat_eq (b := b) (by omega), continuation_eq (b := b₂) (by omega),
    continuation_eq (b := b₃) (by omega)]

/-- What is left out are the overlong forms and numbers that are too great. -/
theorem utf8EncodeChar_of_four (hb : 0xF0 ≤ b.toNat ∧ b.toNat ≤ 0xF4)
    (hb₂ : 0x80 ≤ b₂.toNat ∧ b₂.toNat ≤ 0xBF) (hlong : b.toNat = 0xF0 → 0x90 ≤ b₂.toNat)
    (hgreat : b.toNat = 0xF4 → b₂.toNat ≤ 0x8F) (hb₃ : 0x80 ≤ b₃.toNat ∧ b₃.toNat ≤ 0xBF)
    (hb₄ : 0x80 ≤ b₄.toNat ∧ b₄.toNat ≤ 0xBF) :
    String.utf8EncodeChar (Char.ofNat
      (((b.toNat % 8 * 64 + low b₂) * 64 + low b₃) * 64 + low b₄)) = [b, b₂, b₃, b₄] := by
  unfold low
  have hv : (((b.toNat % 8 * 64 + b₂.toNat % 64) * 64 + b₃.toNat % 64) * 64 +
      b₄.toNat % 64).isValidChar := by
    unfold Nat.isValidChar
    omega
  rw [utf8EncodeChar_ofNat hv, if_neg (by omega), if_neg (by omega), if_neg (by omega),
    ofNat_eq (b := b) (by omega), continuation_eq (b := b₂) (by omega),
    continuation_eq (b := b₃) (by omega), continuation_eq (b := b₄) (by omega)]

end

/-- The head of some bytes is a character only if that is written so. -/
theorem bytes_of_lead {b : UInt8} {rest : List UInt8} {c : Char} {n : Nat}
    (h : Lead.of b rest = .char c n) :
    b :: rest = String.utf8EncodeChar c ++ rest.drop (n - 1) := by
  unfold Lead.of at h
  by_cases hone : b < 0x80
  · -- A character of one byte.
    rw [if_pos hone] at h
    cases h
    rw [utf8EncodeChar_of_one (by simpa [UInt8.lt_iff_toNat_lt] using hone)]
    rfl
  rw [if_neg hone] at h
  rcases hsecond : secondByte? b with _ | ⟨lo, hi, size⟩
  · rw [hsecond] at h
    cases h
  rw [hsecond] at h
  -- The first byte says how many there are, and the second one is in the bounds for it.
  obtain ⟨hlo, hhi, hsize⟩ := of_secondByte? hsecond
  rcases rest with _ | ⟨b₂, rest⟩
  · cases h
  dsimp only at h
  by_cases hout : (b₂ < lo || hi < b₂) = true
  · rw [if_pos hout] at h
    cases h
  have hb₂ : lo.toNat ≤ b₂.toNat ∧ b₂.toNat ≤ hi.toNat := by
    simpa [UInt8.lt_iff_toNat_lt, UInt8.le_iff_toNat_le] using hout
  rw [if_neg hout] at h
  obtain ⟨rfl, hb⟩ | hlonger := hsize
  · -- A character of two bytes.
    cases h
    rw [utf8EncodeChar_of_two hb (by omega)]
    rfl
  rw [if_neg (by omega)] at h
  rcases rest with _ | ⟨b₃, rest⟩
  · cases h
  dsimp only at h
  have hb₃ : isContinuation b₃ = true :=
    Decidable.byContradiction fun hnot => by simp [hnot] at h
  rw [if_neg (by simp [hb₃])] at h
  rw [isContinuation_iff] at hb₃
  obtain ⟨rfl, hlow, hhigh, hlong, hsurrogate⟩ | ⟨rfl, hlow, hhigh, hlong, hgreat⟩ := hlonger
  · -- A character of three bytes.
    cases h
    rw [utf8EncodeChar_of_three ⟨hlow, hhigh⟩ (by omega) (by omega) (by omega) hb₃]
    rfl
  rcases rest with _ | ⟨b₄, rest⟩
  · cases h
  dsimp only at h
  have hb₄ : isContinuation b₄ = true :=
    Decidable.byContradiction fun hnot => by simp [hnot] at h
  rw [if_neg (by decide), if_neg (by simp [hb₄])] at h
  rw [isContinuation_iff] at hb₄
  cases h
  rw [utf8EncodeChar_of_four ⟨hlow, hhigh⟩ (by omega) (by omega) (by omega) hb₃ hb₄]
  rfl

theorem bytes_of_decodeFrom {bytes : List UInt8} {done : Nat} {cs : List Char}
    (h : decodeFrom done bytes = .ok cs) : bytes = cs.flatMap String.utf8EncodeChar := by
  induction done, bytes using decodeFrom.induct generalizing cs with
  | case1 done =>
      rw [decodeFrom] at h
      cases h
      rfl
  | case2 done b rest c n hlead cs' hrest ih =>
      rw [decodeFrom, hlead] at h
      simp only [hrest] at h
      cases h
      rw [bytes_of_lead hlead, List.flatMap_cons, ← ih hrest]
  | case3 done b rest c n hlead e hrest _ =>
      rw [decodeFrom, hlead] at h
      simp only [hrest] at h
      cases h
  | case4 done b rest n hlead =>
      rw [decodeFrom, hlead] at h
      cases h
  | case5 done b rest hlead =>
      rw [decodeFrom, hlead] at h
      cases h

/-- Bytes are read as characters exactly if they are the bytes of the text of these. -/
theorem decode?_eq_ok_iff {bytes : List UInt8} {cs : List Char} :
    decode? bytes = .ok cs ↔ toBytes (String.ofList cs) = bytes := by
  rw [toBytes_eq_flatMap, String.toList_ofList]
  constructor
  · intro h
    exact (bytes_of_decodeFrom h).symm
  · rintro rfl
    exact decodeFrom_flatMap 0 cs

/-- Bytes are read as a text exactly if they are the bytes of that text. -/
theorem ofBytes?_eq_ok_iff {bytes : ByteArray} {text : String} :
    ofBytes? bytes = .ok text ↔ bytes = text.toUTF8 := by
  constructor
  · intro h
    rw [ofBytes?] at h
    cases hdecode : decode? bytes.data.toList with
    | error e =>
        rw [hdecode] at h
        cases h
    | ok cs =>
        rw [hdecode] at h
        cases h
        exact ByteArray.ext (Array.toList_inj.mp (decode?_eq_ok_iff.mp hdecode).symm)
  · rintro rfl
    exact ofBytes?_toUTF8 text

/-! ## Sizes -/

theorem length_toBytes (text : String) : (toBytes text).length = text.utf8ByteSize := rfl

/-- A text has no more characters than bytes. -/
theorem length_le_utf8ByteSize (text : String) : text.toList.length ≤ text.utf8ByteSize := by
  rw [← length_toBytes, toBytes_eq_flatMap]
  induction text.toList with
  | nil => exact Nat.le_refl 0
  | cons c cs ih =>
      have hpos := c.utf8Size_pos
      rw [List.flatMap_cons, List.length_append, String.length_utf8EncodeChar, List.length_cons]
      omega

end LuaShell.Text
