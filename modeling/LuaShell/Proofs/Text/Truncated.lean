import LuaShell.Proofs.Text.Utf8
import Mathlib

/-!
# Texts cut by bytes

A text of which only so many bytes are kept can be cut within a character.  What is left is read
as the characters that are there as a whole, and one replacement character for the piece of the
one that is not (`decodeLossy_take`).  Such a text is read as what it was only if it is not cut at
all, or if it ends in a replacement character and is cut within that (`shortened_eq_self_iff`).

Bytes before a new character are read by themselves, since its first byte continues none
(`decodeLossy_append`).
-/

namespace LuaShell.Text

section Leads

variable {b x : UInt8} {rest more : List UInt8} {c : Char} {n : Nat}

/-! ## Heads of cut bytes -/

/-- Bytes that begin a character but do not hold all of it are the start of a character. -/
theorem lead_eq_cut (more : List UInt8) (hlead : Lead.of b (rest ++ more) = .char c n)
    (hlength : rest.length + 1 < n) : Lead.of b rest = .cut := by
  unfold Lead.of at hlead ⊢
  split at hlead
  · cases hlead
    omega
  next hone =>
  rw [if_neg hone]
  cases hsecond : secondByte? b with
  | none => simp [hsecond] at hlead
  | some bounds =>
      obtain ⟨lo, hi, size⟩ := bounds
      simp only [hsecond] at hlead
      -- The bytes that are there have passed the tests before; the next one is missing.
      rcases rest with _ | ⟨b₂, _ | ⟨b₃, _ | ⟨b₄, rest⟩⟩⟩
      · rfl
      all_goals grind

/-- What is told from some bytes is not changed by more of them. -/
theorem lead_append (hlead : Lead.of b rest ≠ .cut) (more : List UInt8) :
    Lead.of b (rest ++ more) = Lead.of b rest := by
  unfold Lead.of at hlead ⊢
  split
  · rfl
  cases hsecond : secondByte? b with
  | none => rfl
  | some bounds =>
      obtain ⟨lo, hi, size⟩ := bounds
      simp only [hsecond] at hlead ⊢
      rcases rest with _ | ⟨b₂, _ | ⟨b₃, _ | ⟨b₄, rest⟩⟩⟩ <;> grind

/-- The start of a character is ill-formed before a byte that continues none. -/
theorem lead_append_of_cut (hlead : Lead.of b rest = .cut) (hx : isContinuation x = false)
    (more : List UInt8) : Lead.of b (rest ++ x :: more) = .bad (rest.length + 1) := by
  unfold Lead.of at hlead ⊢
  split at hlead
  · cases hlead
  next hone =>
  rw [if_neg hone]
  cases hsecond : secondByte? b with
  | none => simp [hsecond] at hlead
  | some bounds =>
      obtain ⟨lo, hi, size⟩ := bounds
      obtain ⟨hlo, hhi, -⟩ := of_secondByte? hsecond
      have hout : (x < lo || hi < x) = true := by
        rw [Bool.eq_false_iff, ne_eq, isContinuation_iff] at hx
        simp only [UInt8.lt_iff_toNat_lt, Bool.or_eq_true, decide_eq_true_eq]
        omega
      simp only [hsecond] at hlead ⊢
      rcases rest with _ | ⟨b₂, _ | ⟨b₃, _ | ⟨b₄, rest⟩⟩⟩ <;> grind

/-- What is told is told from bytes that are there, so more of them are left behind it. -/
theorem drop_append_of_lead (hlead : Lead.of b rest = .char c n ∨ Lead.of b rest = .bad n)
    (more : List UInt8) : (rest ++ more).drop (n - 1) = rest.drop (n - 1) ++ more := by
  have hsize : n ≤ rest.length + 1 := by
    unfold Lead.of at hlead
    rcases rest with _ | ⟨b₂, _ | ⟨b₃, _ | ⟨b₄, rest⟩⟩⟩ <;> grind
  exact List.drop_append_of_le_length (by omega)

/-- The first byte of a character continues none. -/
theorem isContinuation_of_lead (hlead : Lead.of b rest = .char c n) :
    isContinuation b = false := by
  by_contra hcontinues
  rw [Bool.not_eq_false, isContinuation_iff] at hcontinues
  have hone : ¬ b < 0x80 := by
    simp only [UInt8.lt_iff_toNat_lt, UInt8.reduceToNat]
    omega
  have hsecond : secondByte? b = none := by rw [secondByte?_eq, if_pos (by omega)]
  rw [Lead.of, if_neg hone, hsecond] at hlead
  cases hlead

end Leads

/-! ## Bytes before a new character -/

/-- Bytes are read by themselves before a byte that continues no character. -/
theorem decodeLossy_append_cons {x : UInt8} (hx : isContinuation x = false)
    (bytes more : List UInt8) :
    decodeLossy (bytes ++ x :: more) = decodeLossy bytes ++ decodeLossy (x :: more) := by
  induction bytes using decodeLossy.induct with
  | case1 => rw [decodeLossy, List.nil_append, List.nil_append]
  | case2 b rest c n hlead ih =>
      have hdrop := drop_append_of_lead (.inl hlead) (x :: more)
      have hwhole : Lead.of b rest ≠ .cut := by simp [hlead]
      have hsame := lead_append hwhole (x :: more)
      rw [List.cons_append, decodeLossy, hsame, hlead, decodeLossy, hlead]
      simp only [hdrop, ih, List.cons_append]
  | case3 b rest n hlead ih =>
      have hdrop := drop_append_of_lead (c := replacement) (.inr hlead) (x :: more)
      have hwhole : Lead.of b rest ≠ .cut := by simp [hlead]
      have hsame := lead_append hwhole (x :: more)
      rw [List.cons_append, decodeLossy, hsame, hlead, decodeLossy, hlead]
      simp only [hdrop, ih, List.cons_append]
  | case4 b rest hlead =>
      rw [List.cons_append, decodeLossy, lead_append_of_cut hlead hx, decodeLossy, hlead]
      simp

theorem decodeLossy_append {bytes more : List UInt8}
    (hmore : ∀ x ∈ more.head?, isContinuation x = false) :
    decodeLossy (bytes ++ more) = decodeLossy bytes ++ decodeLossy more := by
  cases more with
  | nil =>
      have hnil : decodeLossy [] = [] := by rw [decodeLossy]
      rw [hnil, List.append_nil, List.append_nil]
  | cons x more => exact decodeLossy_append_cons (hmore x rfl) bytes more

/-! ## Texts between other bytes -/

/-- The bytes of whole characters are read as these, whatever follows. -/
theorem decodeLossy_flatMap_append (cs : List Char) (bytes : List UInt8) :
    decodeLossy (cs.flatMap String.utf8EncodeChar ++ bytes) = cs ++ decodeLossy bytes := by
  induction cs with
  | nil => rfl
  | cons c cs ih =>
      obtain ⟨b, rest, n, hbytes, hlead, hrest⟩ :=
        lead_utf8EncodeChar c (cs.flatMap String.utf8EncodeChar ++ bytes)
      rw [List.flatMap_cons, List.append_assoc, hbytes, decodeLossy, hlead]
      simp only [hrest, ih, List.cons_append]

theorem decodeLossy_text_append (text : String) (bytes : List UInt8) :
    decodeLossy (toBytes text ++ bytes) = text.toList ++ decodeLossy bytes := by
  rw [toBytes_eq_flatMap, decodeLossy_flatMap_append]

/-- Bytes around a text are read by themselves, and the text as it is. -/
theorem decodeLossy_append_text (text : String) (htext : text.toList ≠ [])
    (before after : List UInt8) :
    decodeLossy (before ++ (toBytes text ++ after)) =
      decodeLossy before ++ (text.toList ++ decodeLossy after) := by
  rw [toBytes_eq_flatMap]
  obtain ⟨c, cs, hcs⟩ := List.exists_cons_of_ne_nil htext
  obtain ⟨b, rest, n, hbytes, hlead, -⟩ :=
    lead_utf8EncodeChar c (cs.flatMap String.utf8EncodeChar ++ after)
  have hcut := decodeLossy_append_cons (isContinuation_of_lead hlead) before rest
  rw [← hbytes, ← List.append_assoc (String.utf8EncodeChar c), ← List.flatMap_cons, ← hcs,
    decodeLossy_flatMap_append] at hcut
  exact hcut

/-! ## Cut texts -/

/-- A piece of a character is read as one replacement character. -/
theorem decodeLossy_take_utf8EncodeChar {c : Char} {n : Nat} (hn : n < c.utf8Size) :
    decodeLossy ((String.utf8EncodeChar c).take n) = if 0 < n then [replacement] else [] := by
  obtain ⟨b, rest, size, hbytes, hlead, hrest⟩ := lead_utf8EncodeChar c []
  rw [List.append_nil] at hbytes
  have hsize : rest.length + 1 = c.utf8Size := by
    rw [← String.length_utf8EncodeChar, hbytes, List.length_cons]
  rw [hbytes]
  cases n with
  | zero => rw [List.take_zero, decodeLossy, if_neg (Nat.lt_irrefl 0)]
  | succ n =>
      have hcut : Lead.of b (rest.take n) = .cut := by
        rw [List.drop_eq_nil_iff] at hrest
        refine lead_eq_cut (rest.drop n) (by rw [List.take_append_drop]; exact hlead) ?_
        rw [List.length_take]
        omega
      rw [List.take_succ_cons, decodeLossy, hcut, if_pos n.succ_pos]

/-- The number of bytes of some characters. -/
def byteCount (cs : List Char) : Nat := (cs.flatMap String.utf8EncodeChar).length

/-- A text that is cut in or before a character is read as what stands before this one, with a
replacement character behind it if some of its bytes are left. -/
theorem decodeLossy_take {init rest : List Char} {c : Char} {n : Nat} (hinit : byteCount init ≤ n)
    (hcut : n < byteCount init + c.utf8Size) :
    decodeLossy (((init ++ c :: rest).flatMap String.utf8EncodeChar).take n) =
      init ++ if byteCount init < n then [replacement] else [] := by
  unfold byteCount at hinit hcut ⊢
  rw [List.flatMap_append, List.flatMap_cons, List.take_append, List.take_of_length_le hinit,
    decodeLossy_flatMap_append, List.take_append_of_le_length
      (by rw [String.length_utf8EncodeChar]; omega), decodeLossy_take_utf8EncodeChar (by omega)]
  simp only [Nat.sub_pos_iff_lt]

/-- A text that is longer is cut in or before one of its characters. -/
theorem exists_cut {cs : List Char} {n : Nat} (hn : n < byteCount cs) :
    ∃ init c rest, cs = init ++ c :: rest ∧ byteCount init ≤ n ∧
      n < byteCount init + c.utf8Size := by
  induction cs generalizing n with
  | nil => simp [byteCount] at hn
  | cons c cs ih =>
      have hcons : ∀ cs, byteCount (c :: cs) = c.utf8Size + byteCount cs := fun cs => by
        rw [byteCount, List.flatMap_cons, List.length_append, String.length_utf8EncodeChar,
          byteCount]
      by_cases hhere : n < c.utf8Size
      · exact ⟨[], c, cs, rfl, Nat.zero_le n, by simpa [byteCount] using hhere⟩
      · rw [hcons] at hn
        obtain ⟨init, d, rest, rfl, hinit, hcut⟩ := ih (n := n - c.utf8Size) (by omega)
        exact ⟨c :: init, d, rest, rfl, by rw [hcons]; omega, by rw [hcons]; omega⟩

theorem byteCount_toList (text : String) : byteCount text.toList = text.utf8ByteSize := by
  rw [byteCount, ← toBytes_eq_flatMap, length_toBytes]

theorem byteCount_append (cs ds : List Char) :
    byteCount (cs ++ ds) = byteCount cs + byteCount ds := by
  rw [byteCount, List.flatMap_append, List.length_append, byteCount, byteCount]

/-- The first bytes of a text, read as text. -/
def shortened (n : Nat) (text : String) : String :=
  ofBytesLossy ⟨((toBytes text).take n).toArray⟩

theorem toList_shortened (n : Nat) (text : String) :
    (shortened n text).toList =
      decodeLossy ((text.toList.flatMap String.utf8EncodeChar).take n) := by
  rw [shortened, ofBytesLossy, String.toList_ofList, toBytes_eq_flatMap]

theorem shortened_of_le {n : Nat} {text : String} (hn : text.utf8ByteSize ≤ n) :
    shortened n text = text := by
  rw [← String.toList_inj, toList_shortened, ← toBytes_eq_flatMap,
    List.take_of_length_le (by rw [length_toBytes]; exact hn), decodeLossy_toBytes]

/-- A text is read as what it was exactly if all of it is kept, or if it ends in a replacement
character of which a piece is kept. -/
theorem shortened_eq_self_iff {n : Nat} {text : String} :
    shortened n text = text ↔
      text.utf8ByteSize ≤ n ∨
        ∃ init : String, text = init ++ String.singleton replacement ∧ init.utf8ByteSize < n := by
  by_cases hn : text.utf8ByteSize ≤ n
  · simp [shortened_of_le hn, hn]
  rw [← byteCount_toList] at hn
  rw [or_iff_right (by rwa [← byteCount_toList])]
  constructor
  · intro hsame
    obtain ⟨init, c, rest, htext, hinit, hcut⟩ := exists_cut (Nat.lt_of_not_le hn)
    have hread := toList_shortened n text
    rw [hsame, htext, decodeLossy_take hinit hcut, List.append_cancel_left_eq] at hread
    split at hread
    · next hpiece =>
        obtain ⟨rfl, rfl⟩ := List.cons.inj hread
        refine ⟨String.ofList init, by rw [← String.toList_inj, htext]; simp, ?_⟩
        rwa [← byteCount_toList, String.toList_ofList]
    · cases hread
  · rintro ⟨init, htext, hinit⟩
    have htoList : text.toList = init.toList ++ [replacement] := by rw [htext]; simp
    rw [← byteCount_toList] at hinit
    rw [htoList, byteCount_append] at hn
    have hcut : n < byteCount init.toList + replacement.utf8Size := Nat.lt_of_not_le hn
    rw [← String.toList_inj, toList_shortened, htoList, decodeLossy_take (Nat.le_of_lt hinit) hcut,
      if_pos hinit]

/-- What is left of a text that is cut are its first characters, with a replacement character
behind them if a piece of the next one is left. -/
theorem toList_shortened_eq (n : Nat) (text : String) :
    ∃ init, init <+: text.toList ∧
      ((shortened n text).toList = init ∨ (shortened n text).toList = init ++ [replacement]) := by
  by_cases hn : text.utf8ByteSize ≤ n
  · exact ⟨text.toList, List.prefix_rfl, .inl (by rw [shortened_of_le hn])⟩
  · rw [← byteCount_toList] at hn
    obtain ⟨init, c, rest, htext, hinit, hcut⟩ := exists_cut (Nat.lt_of_not_le hn)
    refine ⟨init, htext ▸ List.prefix_append init _, ?_⟩
    rw [toList_shortened, htext, decodeLossy_take hinit hcut]
    split
    · exact .inr rfl
    · exact .inl (List.append_nil init)

end LuaShell.Text
