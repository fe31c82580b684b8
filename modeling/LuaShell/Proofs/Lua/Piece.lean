import LuaShell.Proofs.Lua.LineNumber
import Mathlib

/-!
# Pieces of a source

The lexer takes a source apart from its beginning: blanks and breaks of lines, comments, long
brackets, literals between quotes, and other tokens (`scan_eq_piece`).  Each piece is some bytes at
the head of what is left, so a byte stands in one piece only (`Cut.unique`), and in some piece as
far as the lexer gets without a fault (`exists_cut`).

A quote can stand in three of them.  In a comment and in a long bracket it is a byte like any other.
A literal begins and ends with the same quote, and between the two this one stands only behind a
backslash (`Cut.literal`).
-/

namespace LuaShell.Lua.Source

/-! ## Piece by piece -/

/-- What the lexer takes off the head of a source at once. -/
inductive Piece where
  /-- A blank or the break of a line. -/
  | blank
  | comment
  /-- A string in a long bracket. -/
  | long (t : Token)
  /-- A string between quotes. -/
  | literal (t : Token)
  | other (t : Token)

/-- The token that a piece is, if it is one. -/
def Piece.token? : Piece → Option Token
  | .blank | .comment => none
  | .long t | .literal t | .other t => some t

/-- A single or double quote. -/
def isQuote (b : UInt8) : Bool :=
  b = 34 || b = 39

/-- What is behind a comment whose two dashes have been read. -/
def afterComment (rest : List UInt8) (line : Nat) : Except SyntaxFault Source :=
  match rest with
  | 91 :: more =>
      if (longLevel 91 more).2 then
        (long (longLevel 91 more).1 "comment" more line).map (·.2)
      else .ok ⟨rest.dropWhile (!isNewline ·), line⟩
  | _ => .ok ⟨rest.dropWhile (!isNewline ·), line⟩

/-- The kind of the token that begins with a byte. -/
def tokenPiece (b : UInt8) (rest : List UInt8) (t : Token) : Piece :=
  if isQuote b then .literal t
  else if b = 91 && (longLevel 91 rest).2 then .long t
  else .other t

/-- The first piece. What is neither a blank nor a comment is a token. -/
def piece (b : UInt8) (rest : List UInt8) (line : Nat) : Scan Piece :=
  if isNewline b then .ok (.blank, ⟨skipNewline (b :: rest), line + 1⟩)
  else if isSpace b then .ok (.blank, ⟨rest, line⟩)
  else if b = 45 && rest.head? = some 45 then
    (afterComment (rest.drop 1) line).map fun s => (.comment, s)
  else (scan 1 (b :: rest) line).map fun r => (tokenPiece b rest r.1, r.2)

/-- What is made of something that was read. -/
theorem exists_of_map_eq_ok {α β : Type} {f : α → β} {a : Except SyntaxFault α} {y : β}
    (h : a.map f = .ok y) : ∃ x, a = .ok x ∧ f x = y := by
  cases a with
  | error e => cases h
  | ok x => exact ⟨x, rfl, Except.ok.inj h⟩

theorem token?_tokenPiece (b : UInt8) (rest : List UInt8) (t : Token) :
    (tokenPiece b rest t).token? = some t := by
  unfold tokenPiece
  split
  · rfl
  · split <;> rfl

theorem afterDashes_eq (n : Nat) (rest : List UInt8) (line : Nat) :
    afterDashes n rest line = (afterComment rest line).bind fun s => scan n s.rest s.line := by
  unfold afterDashes
  dsimp only
  split
  · next more =>
      by_cases hlong : (longLevel 91 more).2 = true
      · simp only [afterComment, if_pos hlong]
        cases long (longLevel 91 more).1 "comment" more line <;> rfl
      · simp only [afterComment, if_neg hlong]
        rfl
  · next hbracket =>
      have hline : afterComment rest line = .ok ⟨rest.dropWhile (!isNewline ·), line⟩ := by
        unfold afterComment
        split
        · exact absurd rfl (hbracket _)
        · rfl
      rw [hline]
      rfl

/-- The next token is the first piece that is one. -/
theorem scan_eq_piece (n : Nat) (b : UInt8) (rest : List UInt8) (line : Nat) :
    scan (n + 1) (b :: rest) line = (piece b rest line).bind fun r =>
      match r.1.token? with
      | some t => .ok (t, r.2)
      | none => scan n r.2.rest r.2.line := by
  by_cases hnewline : isNewline b = true
  · rw [scan_cons, piece, if_pos hnewline, if_pos hnewline]
    rfl
  by_cases hspace : isSpace b = true
  · rw [scan_cons, piece, if_neg hnewline, if_pos hspace, if_neg hnewline, if_pos hspace]
    rfl
  by_cases hdashes : (b = 45 && rest.head? = some 45) = true
  · simp only [scan_cons, piece, if_neg hnewline, if_neg hspace, if_pos hdashes, afterDashes_eq]
    cases afterComment (rest.drop 1) line <;> rfl
  · have hscan : scan (n + 1) (b :: rest) line = scan 1 (b :: rest) line := by
      simp only [scan_cons, if_neg hnewline, if_neg hspace, if_neg hdashes]
    simp only [hscan, piece, if_neg hnewline, if_neg hspace, if_neg hdashes]
    cases scan 1 (b :: rest) line with
    | error e => rfl
    | ok r => simp only [Except.map, Except.bind, token?_tokenPiece]

/-- A piece is at the head of what is left, and this is what is left behind it. -/
def Takes (a : Source) (p : Piece) (b : Source) : Prop :=
  ∃ c rest, a.rest = c :: rest ∧ piece c rest a.line = .ok (p, b)

/-- A source is taken apart up to what is left of it. -/
abbrev Reaches : Source → Source → Prop :=
  Relation.ReflTransGen fun a b => ∃ p, Takes a p b

/-! ## Within a literal -/

/-- Neither a quote nor a backslash. -/
def isInert (b : UInt8) : Bool :=
  !isQuote b && b ≠ 92

/-- What lies between the quotes of a literal: a backslash takes the next byte along with it. -/
inductive Enclosed (quote : UInt8) : List UInt8 → Prop where
  | nil : Enclosed quote []
  | plain {b : UInt8} {bs : List UInt8} : b ≠ quote → b ≠ 92 → Enclosed quote bs →
      Enclosed quote (b :: bs)
  | escaped (b : UInt8) {bs : List UInt8} : Enclosed quote bs → Enclosed quote (92 :: b :: bs)

section Literal

variable {quote b : UInt8} {rest rest' : List UInt8} {s : Source} {line : Nat}

theorem isQuote_of_isInert (hb : isInert b = true) : isQuote b = false := by
  simp only [isInert, Bool.and_eq_true, Bool.not_eq_true'] at hb
  exact hb.1

/-- A kind of bytes to which neither quotes nor the backslash belong. -/
theorem isInert_of {p : UInt8 → Bool} (hdouble : p 34 = false) (hsingle : p 39 = false)
    (hbackslash : p 92 = false) (hb : p b = true) : isInert b = true := by
  have hne : ∀ c, p c = false → b ≠ c := by
    rintro c hc rfl
    rw [hb] at hc
    cases hc
  simp [isInert, isQuote, hne _ hdouble, hne _ hsingle, hne _ hbackslash]

theorem isInert_of_isNewline (hb : isNewline b = true) : isInert b = true :=
  isInert_of (p := isNewline) (by decide) (by decide) (by decide) hb

/-- Inert bytes are passed. -/
def Inertly (rest rest' : List UInt8) : Prop :=
  ∃ bs, rest = bs ++ rest' ∧ ∀ b ∈ bs, isInert b = true

theorem Inertly.refl (rest : List UInt8) : Inertly rest rest :=
  ⟨[], rfl, by simp⟩

theorem Inertly.cons (hb : isInert b = true) (h : Inertly rest rest') :
    Inertly (b :: rest) rest' := by
  obtain ⟨bs, rfl, hbs⟩ := h
  exact ⟨b :: bs, rfl, List.forall_mem_cons.mpr ⟨hb, hbs⟩⟩

theorem inertly_drop_takeWhile {p : UInt8 → Bool} (hp : ∀ b, p b = true → isInert b = true)
    (rest : List UInt8) : Inertly rest (rest.drop (rest.takeWhile p).length) := by
  refine ⟨rest.takeWhile p, ?_, fun b hb => hp b (List.mem_takeWhile_imp hb)⟩
  exact (List.prefix_iff_eq_append.mp (List.takeWhile_prefix p)).symm

theorem isInert_of_isHexDigit (hb : isHexDigit b = true) : isInert b = true :=
  isInert_of (p := isHexDigit) (by decide) (by decide) (by decide) hb

theorem Inertly.trans {rest'' : List UInt8} (h : Inertly rest rest') (h' : Inertly rest' rest'') :
    Inertly rest rest'' := by
  obtain ⟨bs, rfl, hbs⟩ := h
  obtain ⟨bs', rfl, hbs'⟩ := h'
  exact ⟨bs ++ bs', (List.append_assoc ..).symm, List.forall_mem_append.mpr ⟨hbs, hbs'⟩⟩

/-- The rest of a line break whose first byte has been read. -/
theorem inertly_skipNewline (b : UInt8) (rest : List UInt8) :
    Inertly rest (skipNewline (b :: rest)) := by
  cases rest with
  | nil => exact .refl []
  | cons c rest =>
      rw [skipNewline]
      split
      · next hc =>
          simp only [Bool.and_eq_true] at hc
          exact .cons (isInert_of_isNewline hc.1) (.refl rest)
      · exact .refl _

theorem isInert_of_isSpace (hb : isSpace b = true) : isInert b = true :=
  isInert_of (p := isSpace) (by decide) (by decide) (by decide) hb

theorem inertly_skipSpace (n : Nat) (rest : List UInt8) (line : Nat) :
    Inertly rest (skipSpace n rest line).1 := by
  induction n generalizing rest line with
  | zero => exact .refl rest
  | succ n ih =>
      cases rest with
      | nil => exact .refl []
      | cons b rest =>
          rw [skipSpace]
          split
          · next hb =>
              have hbreak := inertly_skipNewline b rest
              exact .cons (isInert_of_isNewline hb) (hbreak.trans (ih ..))
          · split
            · next hb => exact .cons (isInert_of_isSpace hb) (ih ..)
            · exact .refl _

theorem inertly_hexEscape {text : List UInt8} {e : UInt8}
    (h : hexEscape text rest line = .ok (e, rest')) : Inertly rest rest' := by
  unfold hexEscape at h
  split at h
  · next a b more =>
      split at h
      · cases h
      · split at h
        · cases h
        · next ha hb =>
            cases h
            exact .cons (isInert_of_isHexDigit (by simpa using ha))
              (.cons (isInert_of_isHexDigit (by simpa using hb)) (.refl _))
  · split at h <;> cases h
  · cases h

theorem inertly_codeEscape {text es : List UInt8}
    (h : codeEscape text rest line = .ok (es, rest')) : Inertly rest rest' := by
  unfold codeEscape at h
  split at h
  · next body =>
      dsimp only at h
      split at h
      · cases h
      · split at h
        · cases h
        · split at h
          · next hend =>
              obtain ⟨after, hafter⟩ := List.head?_eq_some_iff.mp hend
              have hdigits := inertly_drop_takeWhile (fun _ => isInert_of_isHexDigit) body
              rw [hafter] at hdigits h
              cases h
              exact .cons (by decide) (hdigits.trans (.cons (by decide) (.refl after)))
          · cases h
  · cases h

/-- A decimal escape takes the digit that it begins with. -/
theorem inertly_decimalEscape {text : List UInt8} {e c : UInt8} (hc : isDigit c = true)
    (h : decimalEscape text (c :: rest) line = .ok (e, rest')) : Inertly rest rest' := by
  unfold decimalEscape at h
  dsimp only at h
  split at h
  · cases h
  · cases h
    have hdigits : ((c :: rest).take 3).takeWhile isDigit =
        c :: (rest.take 2).takeWhile isDigit := by
      rw [List.take_succ_cons, List.takeWhile_cons, if_pos hc]
    have hprefix : (rest.take 2).takeWhile isDigit <+: rest :=
      (List.takeWhile_prefix _).trans (List.take_prefix 2 rest)
    rw [hdigits, List.length_cons, List.drop_succ_cons]
    refine ⟨_, (List.prefix_iff_eq_append.mp hprefix).symm, fun d hd => ?_⟩
    exact isInert_of (p := isDigit) (by decide) (by decide) (by decide) (List.mem_takeWhile_imp hd)

/-- A literal whose opening quote has been read is closed by the same quote. -/
def Closes (quote : UInt8) (rest : List UInt8) (s : Source) : Prop :=
  ∃ inner, rest = inner ++ quote :: s.rest ∧ Enclosed quote inner

theorem Closes.plain (hquote : b ≠ quote) (hbackslash : b ≠ 92) (h : Closes quote rest s) :
    Closes quote (b :: rest) s := by
  obtain ⟨inner, rfl, hinner⟩ := h
  exact ⟨b :: inner, rfl, .plain hquote hbackslash hinner⟩

theorem Closes.inertly (hquote : isQuote quote = true) (hpassed : Inertly rest rest')
    (h : Closes quote rest' s) : Closes quote rest s := by
  obtain ⟨bs, rfl, hbs⟩ := hpassed
  induction bs with
  | nil => exact h
  | cons b bs ih =>
      rw [List.forall_mem_cons] at hbs
      have hne : b ≠ quote := by
        rintro rfl
        rw [isQuote_of_isInert hbs.1] at hquote
        cases hquote
      have hbackslash : b ≠ 92 := by
        rintro rfl
        cases hbs.1
      exact (ih hbs.2).plain hne hbackslash

/-- An escape is a backslash, a byte and inert ones. -/
theorem Closes.escaped (hquote : isQuote quote = true) (b : UInt8) (hpassed : Inertly rest rest')
    (h : Closes quote rest' s) : Closes quote (92 :: b :: rest) s := by
  obtain ⟨inner, rfl, hinner⟩ := h.inertly hquote hpassed
  exact ⟨92 :: b :: inner, rfl, .escaped b hinner⟩

/-- What the reader of a literal takes is what lies between its quotes, and the closing one. -/
theorem quoted_closes (hquote : isQuote quote = true) (n : Nat) {text raw : List UInt8}
    (h : quoted quote n text rest line = .ok (raw, s)) : Closes quote rest s := by
  induction n generalizing text rest line with
  | zero => cases h
  | succ n ih =>
      cases rest with
      | nil => cases h
      | cons b rest =>
          rw [quoted.eq_def] at h
          dsimp only at h
          split at h
          · next hend =>
              cases h
              exact ⟨[], by rw [hend]; rfl, .nil⟩
          next hne =>
          split at h
          · cases h
          split at h
          · next hbackslash => exact (ih h).plain hne hbackslash
          next hbackslash =>
          obtain rfl := Decidable.of_not_not hbackslash
          -- An escape reads the byte behind the backslash, whatever it is, and then inert ones.
          split at h
          · cases h
          next c more =>
          split at h
          · exact (ih h).escaped hquote c (.refl more)
          split at h
          · split at h
            · cases h
            · next hread => exact (ih h).escaped hquote c (inertly_hexEscape hread)
          split at h
          · split at h
            · cases h
            · next hread => exact (ih h).escaped hquote c (inertly_codeEscape hread)
          split at h
          · exact (ih h).escaped hquote c (inertly_skipNewline c more)
          split at h
          · exact (ih h).escaped hquote c (inertly_skipSpace ..)
          split at h
          · next hdigit =>
              split at h
              · cases h
              · next hread => exact (ih h).escaped hquote c (inertly_decimalEscape hdigit hread)
          · cases h

/-- Between the quotes of a literal its own quote stands only behind a backslash. -/
theorem Enclosed.behind_backslash (hquote : isQuote quote = true) {bs : List UInt8}
    (h : Enclosed quote bs) {k : Nat} (hk : bs[k]? = some quote) :
    ∃ j, k = j + 1 ∧ bs[j]? = some 92 := by
  induction h generalizing k with
  | nil => simp at hk
  | plain hne _ _ ih =>
      cases k with
      | zero => exact absurd (by simpa using hk) hne
      | succ k =>
          obtain ⟨j, rfl, hj⟩ := ih (by simpa using hk)
          exact ⟨j + 1, rfl, by simpa using hj⟩
  | escaped b _ ih =>
      match k with
      | 0 =>
          obtain rfl : 92 = quote := by simpa using hk
          cases hquote
      | 1 => exact ⟨0, rfl, rfl⟩
      | k + 2 =>
          obtain ⟨j, rfl, hj⟩ := ih (by simpa using hk)
          exact ⟨j + 2, rfl, by simpa using hj⟩

end Literal

/-! ## Bytes of other pieces -/

section Bytes

variable {b : UInt8} {rest : List UInt8} {s : Source} {t : Token} {line : Nat}

theorem skipNewline_suffix (b : UInt8) (rest : List UInt8) : skipNewline (b :: rest) <:+ rest := by
  obtain ⟨bs, hbs, -⟩ := inertly_skipNewline b rest
  exact ⟨bs, hbs.symm⟩

theorem longBody_suffix {level start n : Nat} {what : String} {text bytes : List UInt8}
    (h : longBody level start what n text rest line = .ok (bytes, s)) : s.rest <:+ rest := by
  induction n generalizing text rest line with
  | zero => cases h
  | succ n ih =>
      cases rest with
      | nil => cases h
      | cons b rest =>
          have hbyte : rest <:+ b :: rest := List.suffix_cons b rest
          rw [longBody] at h
          split at h
          · cases h
            exact (List.drop_suffix _ rest).trans hbyte
          · split at h
            · exact ((ih h).trans (skipNewline_suffix b rest)).trans hbyte
            · exact (ih h).trans hbyte

theorem long_suffix {level : Nat} {what : String} {bytes : List UInt8}
    (h : long level what rest line = .ok (bytes, s)) : s.rest <:+ rest := by
  have hbody : rest.drop (level + 1) <:+ rest := List.drop_suffix _ rest
  rw [long] at h
  split at h
  · next b body hopened =>
      rw [hopened] at hbody h
      split at h
      · have hbreak := (skipNewline_suffix b body).trans (List.suffix_cons b body)
        exact ((longBody_suffix h).trans hbreak).trans hbody
      · exact (longBody_suffix h).trans hbody
  · cases h

theorem afterComment_suffix (h : afterComment rest line = .ok s) : s.rest <:+ rest := by
  unfold afterComment at h
  split at h
  · next more =>
      split at h
      · obtain ⟨r, hlong, rfl⟩ := exists_of_map_eq_ok h
        exact (long_suffix hlong).trans (List.suffix_cons 91 more)
      · cases h
        exact List.dropWhile_suffix _
  · cases h
    exact List.dropWhile_suffix _

/-- The bytes that numerals are made of. -/
def isNumeralByte (b : UInt8) : Bool :=
  isHexDigit b || [43, 45, 46, 80, 88, 112, 120].contains b

theorem isNumeralByte_of_mem_numeralText {marks : List UInt8}
    (hmarks : ∀ b ∈ marks, isNumeralByte b = true) (n : Nat) (rest : List UInt8) :
    ∀ b ∈ numeralText marks n rest, isNumeralByte b = true := by
  induction n generalizing rest with
  | zero => simp [numeralText]
  | succ n ih =>
      cases rest with
      | nil => simp [numeralText]
      | cons b rest =>
          rw [numeralText.eq_def]
          dsimp only
          split
          · next hmark =>
              have hb : isNumeralByte b = true := hmarks b (by simpa using hmark)
              split
              · next s more =>
                  split
                  · next hsign =>
                      have hs : isNumeralByte s = true := by
                        rcases (by simpa using hsign : s = 43 ∨ s = 45) with rfl | rfl <;> decide
                      simpa only [List.forall_mem_cons] using ⟨hb, hs, ih more⟩
                  · exact List.forall_mem_cons.mpr ⟨hb, ih _⟩
              · simpa using hb
          split
          · next hdigit =>
              refine List.forall_mem_cons.mpr ⟨?_, ih rest⟩
              rcases (by simpa using hdigit : isHexDigit b = true ∨ b = 46) with hb | rfl
              · simp [isNumeralByte, hb]
              · decide
          · simp

theorem isNumeralByte_of_mem_numeralStart {body : List UInt8}
    (hdigit : ∀ b ∈ body.head?, isDigit b = true) :
    (∀ b ∈ (numeralStart body).1, isNumeralByte b = true) ∧
      ∀ b ∈ (numeralStart body).2, isNumeralByte b = true := by
  unfold numeralStart
  split
  · next hhex =>
      have hmarks : ∀ b ∈ [80, 112], isNumeralByte b = true := by simp [isNumeralByte]
      refine ⟨?_, hmarks⟩
      unfold Numeral.hexBody? at hhex
      split at hhex
      · next x more =>
          split at hhex
          · next hx =>
              have hx : isNumeralByte x = true := by
                rcases (by simpa using hx : x = 120 ∨ x = 88) with rfl | rfl <;> decide
              have hzero : isNumeralByte 48 = true := by decide
              simp [hx, hzero]
          · cases hhex
      · cases hhex
  · have hmarks : ∀ b ∈ [69, 101], isNumeralByte b = true := by simp [isNumeralByte, isHexDigit]
    refine ⟨?_, hmarks⟩
    cases body with
    | nil => simp
    | cons b body =>
        have hb : isDigit b = true := hdigit b rfl
        simp [isNumeralByte, isHexDigit, hb]

theorem isNumeralByte_of_mem_numeralRaw
    (hdigit : ∀ b ∈ (rest.drop (numeralPoint rest).length).head?, isDigit b = true) :
    ∀ b ∈ numeralRaw rest, isNumeralByte b = true := by
  obtain ⟨hstart, hmarks⟩ := isNumeralByte_of_mem_numeralStart hdigit
  have hpoint : ∀ b ∈ numeralPoint rest, isNumeralByte b = true := by
    unfold numeralPoint
    split <;> simp [isNumeralByte]
  unfold numeralRaw
  exact List.forall_mem_append.mpr
    ⟨List.forall_mem_append.mpr ⟨hpoint, hstart⟩, isNumeralByte_of_mem_numeralText hmarks _ _⟩

theorem numeralRaw_ne_nil (b : UInt8) (rest : List UInt8) : numeralRaw (b :: rest) ≠ [] := by
  have hstart : (numeralStart (b :: rest)).1 ≠ [] := by
    unfold numeralStart
    split <;> simp
  unfold numeralRaw
  by_cases hpoint : b = 46
  · simp [numeralPoint, hpoint]
  · simp [numeralPoint, hpoint, hstart]

theorem numeral_rest (h : numeral rest line = .ok (t, s)) :
    s.rest = rest.drop (numeralRaw rest).length := by
  rw [numeral_eq] at h
  unfold numeralOf at h
  dsimp only at h
  split at h
  · cases h
  · split at h
    · cases h
      rfl
    · cases h
      rfl
    · cases h

/-- What a piece is made of. A quote stands at both ends of a literal, and is not found in tokens of
other kinds outside of long brackets. -/
def Made : Piece → List UInt8 → Prop
  | .blank, bs | .other _, bs => ∀ b ∈ bs, isQuote b = false
  | .literal _, bs => ∃ quote inner, isQuote quote = true ∧ bs = quote :: inner ++ [quote] ∧
      Enclosed quote inner
  | .comment, _ | .long _, _ => True

/-- A piece is all that is between a place and a later one. -/
def Piece.Fills (p : Piece) (rest rest' : List UInt8) : Prop :=
  ∃ bs, bs ≠ [] ∧ rest = bs ++ rest' ∧ Made p bs

theorem fills_blank {rest' : List UInt8} (hb : isInert b = true) (h : Inertly rest rest') :
    Piece.blank.Fills (b :: rest) rest' := by
  obtain ⟨bs, rfl, hbs⟩ := h
  have hall : ∀ c ∈ b :: bs, isInert c = true := List.forall_mem_cons.mpr ⟨hb, hbs⟩
  exact ⟨b :: bs, List.cons_ne_nil b bs, rfl, fun c hc => isQuote_of_isInert (hall c hc)⟩

/-- Nothing is asked of a comment, nor of a string in a long bracket. -/
theorem fills_unasked {p : Piece} {rest' : List UInt8} (hp : ∀ bs, Made p bs)
    (h : rest' <:+ rest) : p.Fills (b :: rest) rest' := by
  obtain ⟨bs, rfl⟩ := h
  exact ⟨b :: bs, List.cons_ne_nil b bs, rfl, hp _⟩

theorem fills_other {rest' read : List UInt8} (hread : read <+: rest) (hne : read ≠ [])
    (hquotes : ∀ b ∈ read, isQuote b = false) (hrest : rest' = rest.drop read.length) :
    (Piece.other t).Fills rest rest' :=
  ⟨read, hne, by rw [hrest, List.prefix_iff_eq_append.mp hread], hquotes⟩

theorem fills_one (hb : isQuote b = false) (rest : List UInt8) :
    (Piece.other t).Fills (b :: rest) rest :=
  ⟨[b], List.cons_ne_nil b [], rfl, by simpa [Made] using hb⟩

theorem fills_operator (hb : isQuote b = false) (rest : List UInt8) (line : Nat) :
    (Piece.other t).Fills (b :: rest) (operator b rest line).2.rest := by
  have hoperators : ∀ o ∈ operators, (Text.toBytes o).length = o.length ∧ Text.toBytes o ≠ [] ∧
      ∀ c ∈ Text.toBytes o, isQuote c = false := by decide +kernel
  unfold operator
  split
  · next o hfound =>
      obtain ⟨hlength, hne, hplain⟩ := hoperators o (List.mem_of_find?_eq_some hfound)
      have hfound := List.find?_some hfound
      have hstands := List.isPrefixOf_iff_prefix.mp hfound
      exact fills_other hstands hne hplain (by rw [hlength])
  · dsimp only
    split <;> exact fills_one hb rest

theorem fills_bracket (h : afterBracket rest line = .ok (t, s)) :
    (tokenPiece 91 rest t).Fills (91 :: rest) s.rest := by
  have hquote : ¬ isQuote 91 = true := by decide
  unfold afterBracket at h
  dsimp only at h
  split at h
  · next hlong =>
      rw [tokenPiece, if_neg hquote, if_pos (by simpa using hlong)]
      split at h
      · cases h
      · next hstring =>
          cases h
          exact fills_unasked (fun _ => trivial) (long_suffix hstring)
  · next hlong =>
      rw [tokenPiece, if_neg hquote, if_neg (by simpa using hlong)]
      split at h
      · cases h
        exact fills_one (by decide) rest
      · cases h

theorem fills_quoted (hb : isQuote b = true) (h : afterQuote b rest line = .ok (t, s)) :
    (tokenPiece b rest t).Fills (b :: rest) s.rest := by
  rw [tokenPiece, if_pos hb]
  unfold afterQuote at h
  split at h
  · cases h
  · next hread =>
      cases h
      obtain ⟨inner, rfl, hinner⟩ := quoted_closes hb _ hread
      exact ⟨b :: inner ++ [b], by simp, by simp, b, inner, hb, rfl, hinner⟩

theorem isInert_of_isNumeralByte (hb : isNumeralByte b = true) : isInert b = true :=
  isInert_of (p := isNumeralByte) (by decide) (by decide) (by decide) hb

theorem isInert_of_isNamePart (hb : isNamePart b = true) : isInert b = true :=
  isInert_of (p := isNamePart) (by decide) (by decide) (by decide) hb

/-- A token that begins with neither a blank nor dashes. -/
theorem fills_token (hnewline : ¬ isNewline b = true) (hspace : ¬ isSpace b = true)
    (hdashes : ¬ (b = 45 && rest.head? = some 45) = true)
    (h : scan 1 (b :: rest) line = .ok (t, s)) :
    (tokenPiece b rest t).Fills (b :: rest) s.rest := by
  rw [scan_cons, if_neg hnewline, if_neg hspace, if_neg hdashes] at h
  split at h
  · next hbracket =>
      subst hbracket
      exact fills_bracket h
  next hbracket =>
  split at h
  · next hquote => exact fills_quoted hquote h
  next hquote =>
  have hb : isQuote b = false := by simpa [isQuote] using hquote
  have hother : tokenPiece b rest t = .other t := by
    simp [tokenPiece, hb, hbracket]
  rw [hother]
  -- Numerals and names are made of inert bytes, and no operator has a quote in it.
  split at h
  · next hdigit =>
      have hdigit := isDigit_of_guard hdigit
      have hbytes := isNumeralByte_of_mem_numeralRaw hdigit
      exact fills_other (numeralRaw_within hdigit).1 (numeralRaw_ne_nil b rest)
        (fun c hc => isQuote_of_isInert (isInert_of_isNumeralByte (hbytes c hc))) (numeral_rest h)
  split at h
  · next hname =>
      cases h
      have hparts : ∀ c ∈ rest.takeWhile isNamePart, isQuote c = false :=
        fun c hc => isQuote_of_isInert (isInert_of_isNamePart (List.mem_takeWhile_imp hc))
      exact fills_other ((List.prefix_cons_inj b).mpr (List.takeWhile_prefix isNamePart))
        (List.cons_ne_nil b _) (List.forall_mem_cons.mpr ⟨hb, hparts⟩) rfl
  · obtain ⟨rfl, rfl⟩ := Prod.mk.inj (Except.ok.inj h.symm)
    exact fills_operator hb rest line

/-- A piece is what its kind is made of. -/
theorem fills_of_takes {a b : Source} {p : Piece} (h : Takes a p b) : p.Fills a.rest b.rest := by
  obtain ⟨c, rest, hrest, hpiece⟩ := h
  rw [hrest]
  unfold piece at hpiece
  split at hpiece
  · next hnewline =>
      cases hpiece
      exact fills_blank (isInert_of_isNewline hnewline) (inertly_skipNewline c rest)
  next hnewline =>
  split at hpiece
  · next hspace =>
      cases hpiece
      exact fills_blank (isInert_of_isSpace hspace) (.refl rest)
  next hspace =>
  split at hpiece
  · obtain ⟨s, hcomment, hmade⟩ := exists_of_map_eq_ok hpiece
    obtain ⟨rfl, rfl⟩ := Prod.mk.inj hmade
    exact fills_unasked (fun _ => trivial)
      ((afterComment_suffix hcomment).trans (List.drop_suffix 1 rest))
  next hdashes =>
  obtain ⟨⟨t, s⟩, htoken, hmade⟩ := exists_of_map_eq_ok hpiece
  obtain ⟨rfl, rfl⟩ := Prod.mk.inj hmade
  exact fills_token hnewline hspace hdashes htoken

end Bytes

/-! ## Places of pieces -/

section Places

variable {s a b : Source} {p p' : Piece} {start stop start' stop' k : Nat}

theorem suffix_of_reaches (h : Reaches a b) : b.rest <:+ a.rest := by
  induction h with
  | refl => exact List.suffix_refl _
  | tail _ htakes ih =>
      obtain ⟨p, htakes⟩ := htakes
      obtain ⟨bs, -, hrest, -⟩ := fills_of_takes htakes
      exact List.IsSuffix.trans ⟨bs, hrest.symm⟩ ih

theorem Takes.length_lt (h : Takes a p b) : b.rest.length < a.rest.length := by
  obtain ⟨bs, hne, hrest, -⟩ := fills_of_takes h
  have hbs := List.length_pos_of_ne_nil hne
  rw [hrest, List.length_append]
  omega

/-- There is one piece at the head. -/
theorem Takes.unique {b' : Source} (h : Takes a p b) (h' : Takes a p' b') : p = p' ∧ b = b' := by
  obtain ⟨c, rest, hrest, hpiece⟩ := h
  obtain ⟨c', rest', hrest', hpiece'⟩ := h'
  obtain ⟨rfl, rfl⟩ := List.cons.inj (hrest.symm.trans hrest')
  exact Prod.mk.inj (Except.ok.inj (hpiece.symm.trans hpiece'))

/-- A token is read by taking pieces off. -/
theorem reaches_of_scan (n : Nat) {rest : List UInt8} {line : Nat} {t : Token}
    (hn : rest.length < n) (h : scan n rest line = .ok (t, s)) : Reaches ⟨rest, line⟩ s := by
  induction n generalizing rest line with
  | zero => omega
  | succ n ih =>
      cases rest with
      | nil =>
          cases h
          exact .refl
      | cons b rest =>
          rw [scan_eq_piece] at h
          cases hpiece : piece b rest line with
          | error e =>
              rw [hpiece] at h
              cases h
          | ok r =>
              obtain ⟨p, behind⟩ := r
              have htakes : Takes ⟨b :: rest, line⟩ p behind := ⟨b, rest, rfl, hpiece⟩
              rw [hpiece] at h
              dsimp only [Except.bind] at h
              split at h
              · cases h
                exact .single ⟨p, htakes⟩
              · have hshort : behind.rest.length < (b :: rest).length := htakes.length_lt
                exact .head ⟨p, htakes⟩ (ih (by omega) h)

theorem reaches_of_reads (h : Reads s a) : Reaches s a := by
  induction h with
  | none => exact .refl
  | next _ hnext ih => exact ih.trans (reaches_of_scan _ (Nat.lt_succ_self _) hnext)

/-- A piece of a source stands from one place up to another. -/
def Cut (s : Source) (p : Piece) (start stop : Nat) : Prop :=
  ∃ a b, Reaches s a ∧ Takes a p b ∧ a.rest.length + start = s.rest.length ∧
    b.rest.length + stop = s.rest.length

/-- Each byte before a place that the lexer reaches stands in a piece. -/
theorem exists_cut (h : Reaches s a) (hk : a.rest.length + k < s.rest.length) :
    ∃ p start stop, Cut s p start stop ∧ start ≤ k ∧ k < stop := by
  induction h with
  | refl => omega
  | @tail a b hreach htakes ih =>
      by_cases hbefore : a.rest.length + k < s.rest.length
      · exact ih hbefore
      · obtain ⟨p, htakes⟩ := htakes
        have ha := (suffix_of_reaches hreach).length_le
        have hb := htakes.length_lt
        exact ⟨p, s.rest.length - a.rest.length, s.rest.length - b.rest.length,
          ⟨a, b, hreach, htakes, by omega, by omega⟩, by omega, by omega⟩

/-- What is taken off behind a piece begins behind it. -/
theorem le_of_reaches_takes {c : Source} (htakes : Takes a p b) (h : Reaches a c) (hne : a ≠ c) :
    c.rest.length ≤ b.rest.length := by
  obtain heq | ⟨b', ⟨p', htakes'⟩, hreach⟩ := h.cases_head
  · exact absurd heq hne
  · obtain ⟨-, rfl⟩ := htakes.unique htakes'
    exact (suffix_of_reaches hreach).length_le

/-- A byte stands in one piece. -/
theorem Cut.unique (h : Cut s p start stop) (h' : Cut s p' start' stop') (hstart : start ≤ k)
    (hstop : k < stop) (hstart' : start' ≤ k) (hstop' : k < stop') :
    p = p' ∧ start = start' ∧ stop = stop' := by
  obtain ⟨a, b, hreach, htakes, ha, hb⟩ := h
  obtain ⟨a', b', hreach', htakes', ha', hb'⟩ := h'
  have hunique : Relator.RightUnique fun a b : Source => ∃ p, Takes a p b := by
    rintro a b b' ⟨p, h⟩ ⟨p', h'⟩
    exact (h.unique h').2
  -- Of two different places one is behind the piece that begins at the other.
  have hsame : a = a' := by
    by_contra hne
    rcases Relation.ReflTransGen.total_of_right_unique hunique hreach hreach' with hmore | hmore
    · have hbehind := le_of_reaches_takes htakes hmore hne
      omega
    · have hbehind := le_of_reaches_takes htakes' hmore (Ne.symm hne)
      omega
  subst hsame
  obtain ⟨rfl, rfl⟩ := htakes.unique htakes'
  exact ⟨rfl, by omega, by omega⟩

/-- The bytes of a piece are those at its place. -/
theorem Cut.bytes (h : Cut s p start stop) : ∃ bs, Made p bs ∧ start + bs.length = stop ∧
    ∀ m, m < bs.length → s.rest[start + m]? = bs[m]? := by
  obtain ⟨a, b, hreach, htakes, ha, hb⟩ := h
  obtain ⟨bs, -, hrest, hmade⟩ := fills_of_takes htakes
  obtain ⟨before, hbefore⟩ := suffix_of_reaches hreach
  have hlength : before.length = start := by
    have htotal := congrArg List.length hbefore
    rw [List.length_append] at htotal
    omega
  have hbehind := congrArg List.length hrest
  rw [List.length_append] at hbehind
  refine ⟨bs, hmade, by omega, fun m hm => ?_⟩
  rw [← hbefore, hrest, ← hlength, List.getElem?_append_right (Nat.le_add_right _ _),
    Nat.add_sub_cancel_left, List.getElem?_append_left hm]

/-- No quote stands in a piece that is neither a comment nor a string. -/
theorem Cut.not_quote (h : Cut s p start stop) (hp : p = .blank ∨ ∃ t, p = .other t)
    (hstart : start ≤ k) (hstop : k < stop) {q : UInt8} (hq : s.rest[k]? = some q) :
    isQuote q = false := by
  obtain ⟨bs, hmade, hlength, hbytes⟩ := h.bytes
  have hmem : q ∈ bs := by
    have hbyte := hbytes (k - start) (by omega)
    rw [Nat.add_sub_cancel' hstart, hq] at hbyte
    exact List.mem_of_getElem? hbyte.symm
  rcases hp with rfl | ⟨t, rfl⟩ <;> exact hmade q hmem

/-- A literal stands between two quotes of one kind, and such quotes inside it stand behind a
backslash. -/
theorem Cut.literal {t : Token} (h : Cut s (.literal t) start stop) :
    start + 1 < stop ∧ ∃ quote, isQuote quote = true ∧ s.rest[start]? = some quote ∧
      s.rest[stop - 1]? = some quote ∧ ∀ k, start < k → k + 1 < stop →
        s.rest[k]? = some quote → s.rest[k - 1]? = some 92 := by
  obtain ⟨bs, ⟨quote, inner, hquote, rfl, hinner⟩, hlength, hbytes⟩ := h.bytes
  simp only [List.length_append, List.length_cons, List.length_nil] at hlength hbytes
  have hinside : ∀ m, m < inner.length → s.rest[start + (m + 1)]? = inner[m]? := by
    intro m hm
    rw [hbytes (m + 1) (by omega), List.cons_append, List.getElem?_cons_succ,
      List.getElem?_append_left hm]
  refine ⟨by omega, quote, hquote, ?_, ?_, ?_⟩
  · simpa using hbytes 0 (by omega)
  · have hlast := hbytes (inner.length + 1) (by omega)
    rw [show stop - 1 = start + (inner.length + 1) by omega, hlast]
    simp
  · intro k hstart hstop hk
    obtain ⟨m, rfl⟩ : ∃ m, k = start + (m + 1) := ⟨k - start - 1, by omega⟩
    rw [hinside m (by omega)] at hk
    obtain ⟨j, rfl, hj⟩ := hinner.behind_backslash hquote hk
    rw [show start + (j + 1 + 1) - 1 = start + (j + 1) by omega, hinside j (by omega), hj]

end Places

end LuaShell.Lua.Source
