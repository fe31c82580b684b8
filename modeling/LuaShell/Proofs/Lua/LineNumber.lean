import LuaShell.Lua.Token
import Mathlib

/-!
# Line numbers of the lexer

The lexer has read a part of a source, and knows the line that it has come to.  That number and the
breaks of lines that are still to come make the same sum before and after each token, however much
is skipped or read for it (`next_line`), and so they do for all tokens of a source
(`line_of_reads`): the number of a line is one more than that of the breaks before it.  No fault is
reported behind the last line (`fault_line_le`).
-/

namespace LuaShell.Lua.Source

/-! ## Breaks of lines -/

theorem length_skipNewline_lt (b : UInt8) (rest : List UInt8) :
    (skipNewline (b :: rest)).length < (b :: rest).length := by
  cases rest with
  | nil => simp [skipNewline]
  | cons c rest =>
      rw [skipNewline]
      split <;> simp

/-- How many lines of a text are ended by a break. -/
def breaks : List UInt8 → Nat
  | [] => 0
  | b :: rest => if isNewline b then breaks (skipNewline (b :: rest)) + 1 else breaks rest
termination_by bytes => bytes.length
decreasing_by
  · exact length_skipNewline_lt b rest
  · simp

section Bytes

variable {b : UInt8} {rest rest' rest'' : List UInt8} {line line' line'' : Nat}

theorem breaks_of_newline (h : isNewline b = true) :
    breaks (b :: rest) = breaks (skipNewline (b :: rest)) + 1 := by
  rw [breaks, if_pos h]

theorem breaks_of_not_newline (h : isNewline b = false) : breaks (b :: rest) = breaks rest := by
  rw [breaks, if_neg (by simp [h])]

/-- From one place in a source to another: nothing is put back, and the line number grows by the
breaks that are passed. -/
structure Passed (rest : List UInt8) (line : Nat) (rest' : List UInt8) (line' : Nat) : Prop where
  length : rest'.length ≤ rest.length
  line : line' + breaks rest' = line + breaks rest

theorem Passed.refl (rest : List UInt8) (line : Nat) : Passed rest line rest line :=
  ⟨Nat.le_refl _, rfl⟩

theorem Passed.trans (h : Passed rest line rest' line') (h' : Passed rest' line' rest'' line'') :
    Passed rest line rest'' line'' :=
  ⟨h'.length.trans h.length, h'.line.trans h.line⟩

theorem passed_newline (h : isNewline b = true) (rest : List UInt8) (line : Nat) :
    Passed (b :: rest) line (skipNewline (b :: rest)) (line + 1) := by
  refine ⟨Nat.le_of_lt (length_skipNewline_lt b rest), ?_⟩
  rw [breaks_of_newline h]
  omega

theorem passed_byte (h : isNewline b = false) (rest : List UInt8) (line : Nat) :
    Passed (b :: rest) line rest line :=
  ⟨by simp, by rw [breaks_of_not_newline h]⟩

/-- A kind of bytes to which neither a line feed nor a return belongs. -/
theorem isNewline_eq_false {p : UInt8 → Bool} (hfeed : p 10 = false) (hret : p 13 = false)
    (hb : p b = true) : isNewline b = false := by
  by_contra hnewline
  simp only [isNewline, Bool.not_eq_false, Bool.or_eq_true, decide_eq_true_eq] at hnewline
  rcases hnewline with rfl | rfl
  · simp [hfeed] at hb
  · simp [hret] at hb

/-- Some of the bytes that are to be read, none of which breaks a line. -/
def Within (read rest : List UInt8) : Prop :=
  read <+: rest ∧ ∀ b ∈ read, isNewline b = false

theorem Within.nil (rest : List UInt8) : Within [] rest :=
  ⟨List.nil_prefix, by simp⟩

theorem Within.cons {read : List UInt8} (hb : isNewline b = false) (h : Within read rest) :
    Within (b :: read) (b :: rest) :=
  ⟨(List.prefix_cons_inj b).mpr h.1, List.forall_mem_cons.mpr ⟨hb, h.2⟩⟩

theorem Within.append {read more : List UInt8} (h : Within read rest)
    (hmore : Within more (rest.drop read.length)) : Within (read ++ more) rest := by
  obtain ⟨⟨after, rfl⟩, hread⟩ := h
  rw [List.drop_left] at hmore
  exact ⟨(List.prefix_append_right_inj read).mpr hmore.1,
    List.forall_mem_append.mpr ⟨hread, hmore.2⟩⟩

theorem within_takeWhile {p : UInt8 → Bool} (hfeed : p 10 = false) (hret : p 13 = false)
    (rest : List UInt8) : Within (rest.takeWhile p) rest :=
  ⟨List.takeWhile_prefix p, fun _ hb => isNewline_eq_false hfeed hret (List.mem_takeWhile_imp hb)⟩

/-- Bytes that break no line are passed without a change of the line. -/
theorem Within.passed {read : List UInt8} (h : Within read rest) (line : Nat) :
    Passed rest line (rest.drop read.length) line := by
  obtain ⟨⟨after, rfl⟩, hread⟩ := h
  rw [List.drop_left]
  induction read with
  | nil => exact Passed.refl after line
  | cons b read ih =>
      rw [List.forall_mem_cons] at hread
      exact (passed_byte hread.1 (read ++ after) line).trans (ih hread.2)

theorem passed_dropWhile {p : UInt8 → Bool} (h : ∀ b, p b = true → isNewline b = false)
    (rest : List UInt8) (line : Nat) : Passed rest line (rest.dropWhile p) line := by
  induction rest with
  | nil => exact Passed.refl [] line
  | cons b rest ih =>
      rw [List.dropWhile_cons]
      split
      · next hb => exact (passed_byte (h b hb) rest line).trans ih
      · exact Passed.refl _ line

/-- Reading keeps count of the lines: what is read is passed, and a fault is reported at a line of
the source. -/
def Counts {α : Type} (rest : List UInt8) (line : Nat) : Scan α → Prop
  | .ok (_, s) => Passed rest line s.rest s.line
  | .error (.atLine _ n) => n ≤ line + breaks rest
  | .error .tooDeep => True

theorem Counts.of_passed {α : Type} {a : Scan α} (hpassed : Passed rest line rest' line')
    (h : Counts rest' line' a) : Counts rest line a := by
  match a, h with
  | .ok _, h => exact hpassed.trans h
  | .error (.atLine _ _), h => exact h.trans (Nat.le_of_eq hpassed.line)
  | .error .tooDeep, _ => trivial

theorem counts_fault {α : Type} (message : String) (near rest : List UInt8) (line : Nat) :
    Counts rest line (fault message near line : Scan α) :=
  Nat.le_add_right line _

/-! ## Parts of tokens -/

theorem passed_longLevel {bracket : UInt8} {level : Nat} (hbracket : isNewline bracket = false)
    (h : longLevel bracket rest = (level, true)) (line : Nat) :
    Passed rest line (rest.drop (level + 1)) line := by
  obtain ⟨hlevel, hhead⟩ := Prod.mk.inj h
  simp only [decide_eq_true_eq] at hhead
  rw [hlevel] at hhead
  have hsigns : Passed rest line (rest.drop level) line := by
    rw [← hlevel]
    exact (within_takeWhile (by decide) (by decide) rest).passed line
  obtain ⟨after, hafter⟩ := List.head?_eq_some_iff.mp hhead
  have hlast : Passed (rest.drop level) line ((rest.drop level).drop 1) line := by
    rw [hafter]
    exact passed_byte hbracket after line
  rw [List.drop_drop] at hlast
  exact hsigns.trans hlast

theorem longBody_counts (level start n : Nat) (what : String) (text rest : List UInt8)
    (line : Nat) : Counts rest line (longBody level start what n text rest line) := by
  induction n generalizing text rest line with
  | zero => exact counts_fault ..
  | succ n ih =>
      cases rest with
      | nil => exact counts_fault ..
      | cons b rest =>
          rw [longBody]
          split
          · next hend =>
              -- The first bracket is no newline, and the level is that of the closing one.
              simp only [Bool.and_eq_true, decide_eq_true_eq] at hend
              obtain ⟨rfl, hlevel⟩ := hend
              exact (passed_byte (by decide) rest line).trans
                (passed_longLevel (by decide) hlevel line)
          · split
            · next hnewline => exact (ih ..).of_passed (passed_newline hnewline rest line)
            · next hnewline =>
                exact (ih ..).of_passed (passed_byte (by simpa using hnewline) rest line)

theorem long_counts {level : Nat} (what : String) (hlevel : longLevel 91 rest = (level, true))
    (line : Nat) : Counts rest line (long level what rest line) := by
  have hopening := passed_longLevel (by decide) hlevel line
  refine Counts.of_passed hopening ?_
  rw [long]
  split
  · next b body hbody =>
      rw [hbody]
      split
      · next hnewline => exact (longBody_counts ..).of_passed (passed_newline hnewline body line)
      · exact longBody_counts ..
  · next hbody =>
      rw [hbody]
      exact longBody_counts ..

theorem passed_skipSpace (n : Nat) (rest : List UInt8) (line : Nat) :
    Passed rest line (skipSpace n rest line).1 (skipSpace n rest line).2 := by
  induction n generalizing rest line with
  | zero => exact Passed.refl rest line
  | succ n ih =>
      cases rest with
      | nil => exact Passed.refl [] line
      | cons b rest =>
          rw [skipSpace]
          split
          · next hnewline => exact (passed_newline hnewline rest line).trans (ih ..)
          · next hnewline =>
              split
              · exact (passed_byte (by simpa using hnewline) rest line).trans (ih ..)
              · exact Passed.refl _ line

/-! ## Escapes -/

theorem isNewline_of_isHexDigit (hb : isHexDigit b = true) : isNewline b = false :=
  isNewline_eq_false (p := isHexDigit) (by decide) (by decide) hb

/-- What an escape yields, as something read in its line. -/
def inLine {α : Type} (line : Nat) (a : Except SyntaxFault (α × List UInt8)) : Scan α :=
  a.map fun r => (r.1, ⟨r.2, line⟩)

theorem counts_inLine_fault {α : Type} (message : String) (text read wrong rest : List UInt8)
    (line : Nat) :
    Counts rest line (inLine line (escapeFault message text read wrong line :
      Except SyntaxFault (α × List UInt8))) :=
  Nat.le_add_right line _

theorem hexEscape_counts (text rest : List UInt8) (line : Nat) :
    Counts rest line (inLine line (hexEscape text rest line)) := by
  unfold hexEscape
  split
  · next a b more =>
      split
      · exact counts_inLine_fault ..
      · split
        · exact counts_inLine_fault ..
        · next ha hb =>
            exact (passed_byte (isNewline_of_isHexDigit (by simpa using ha)) _ line).trans
              (passed_byte (isNewline_of_isHexDigit (by simpa using hb)) more line)
  · split <;> exact counts_inLine_fault ..
  · exact counts_inLine_fault ..

theorem codeEscape_counts (text rest : List UInt8) (line : Nat) :
    Counts rest line (inLine line (codeEscape text rest line)) := by
  unfold codeEscape
  split
  · next body =>
      dsimp only
      split
      · exact counts_inLine_fault ..
      · split
        · exact counts_inLine_fault ..
        · split
          · next hend =>
              have hdigits : Passed body line (body.drop (body.takeWhile isHexDigit).length) line :=
                (within_takeWhile (by decide) (by decide) body).passed line
              obtain ⟨after, hafter⟩ := List.head?_eq_some_iff.mp hend
              refine ((passed_byte (by decide) body line).trans hdigits).trans ?_
              simp only [hafter]
              exact passed_byte (by decide) after line
          · exact counts_inLine_fault ..
  · exact counts_inLine_fault ..

theorem decimalEscape_counts (text rest : List UInt8) (line : Nat) :
    Counts rest line (inLine line (decimalEscape text rest line)) := by
  unfold decimalEscape
  dsimp only
  split
  · exact counts_inLine_fault ..
  · obtain ⟨hbegins, hdigits⟩ :=
      within_takeWhile (p := isDigit) (by decide) (by decide) (rest.take 3)
    exact Within.passed ⟨hbegins.trans (List.take_prefix 3 rest), hdigits⟩ line

theorem Counts.of_error {α β : Type} {e : SyntaxFault} (h : Counts rest line (.error e : Scan α)) :
    Counts rest line (.error e : Scan β) := by
  cases e with
  | atLine message n => exact h
  | tooDeep => trivial

theorem Counts.failed {α β : Type} {a : Except SyntaxFault (α × List UInt8)} {e : SyntaxFault}
    (h : Counts rest line (inLine line a)) (ha : a = .error e) :
    Counts rest line (.error e : Scan β) := by
  rw [ha] at h
  exact Counts.of_error h

theorem Counts.passed {α : Type} {a : Except SyntaxFault (α × List UInt8)} {x : α}
    (h : Counts rest line (inLine line a)) (ha : a = .ok (x, rest')) :
    Passed rest line rest' line := by
  rw [ha] at h
  exact h

theorem quoted_counts (delimiter : UInt8) (n : Nat) (text rest : List UInt8) (line : Nat)
    (hdelimiter : isNewline delimiter = false) :
    Counts rest line (quoted delimiter n text rest line) := by
  induction n generalizing text rest line with
  | zero => exact counts_fault ..
  | succ n ih =>
      cases rest with
      | nil => exact counts_fault ..
      | cons b rest =>
          -- In the order of the reader: the end, a break, a plain byte, then the escapes.
          rw [quoted.eq_def]
          dsimp only
          split
          · next hend => exact passed_byte (hend ▸ hdelimiter) rest line
          split
          · exact counts_fault ..
          next hb =>
          have hbyte : Passed (b :: rest) line rest line :=
            passed_byte (by simpa using hb) rest line
          split
          · exact (ih ..).of_passed hbyte
          refine Counts.of_passed hbyte ?_
          split
          · exact counts_fault ..
          next c more =>
          split
          · next e hletter =>
              have hc : isNewline c = false :=
                isNewline_eq_false (p := fun b => (letterEscape? b).isSome) (by decide) (by decide)
                  (by simp [hletter])
              exact (ih ..).of_passed (passed_byte hc more line)
          split
          · next hx =>
              subst hx
              refine Counts.of_passed (passed_byte (by decide) more line) ?_
              split
              · next hread => exact (hexEscape_counts text more line).failed hread
              · next hread =>
                  exact (ih ..).of_passed ((hexEscape_counts text more line).passed hread)
          split
          · next hu =>
              subst hu
              refine Counts.of_passed (passed_byte (by decide) more line) ?_
              split
              · next hread => exact (codeEscape_counts text more line).failed hread
              · next hread =>
                  exact (ih ..).of_passed ((codeEscape_counts text more line).passed hread)
          split
          · next hnewline => exact (ih ..).of_passed (passed_newline hnewline more line)
          split
          · next hz =>
              subst hz
              refine Counts.of_passed (passed_byte (by decide) more line) ?_
              exact (ih ..).of_passed (passed_skipSpace more.length more line)
          split
          · have hescape := decimalEscape_counts text (c :: more) line
            split
            · next hread => exact hescape.failed hread
            · next hread => exact (ih ..).of_passed (hescape.passed hread)
          · exact counts_fault ..

/-! ## Numerals -/

theorem numeralText_within {marks : List UInt8} (hmarks : ∀ b ∈ marks, isNewline b = false)
    (n : Nat) (rest : List UInt8) : Within (numeralText marks n rest) rest := by
  induction n generalizing rest with
  | zero => exact .nil rest
  | succ n ih =>
      cases rest with
      | nil => exact .nil []
      | cons b rest =>
          rw [numeralText.eq_def]
          dsimp only
          split
          · next hmark =>
              have hb : isNewline b = false := hmarks b (by simpa using hmark)
              split
              · next s more =>
                  split
                  · next hsign =>
                      have hs : isNewline s = false := by
                        rcases (by simpa using hsign : s = 43 ∨ s = 45) with rfl | rfl <;> decide
                      exact .cons hb (.cons hs (ih more))
                  · exact .cons hb (ih _)
              · exact .cons hb (.nil [])
          split
          · next hdigit =>
              refine .cons ?_ (ih rest)
              rcases (by simpa using hdigit : isHexDigit b = true ∨ b = 46) with hb | rfl
              · exact isNewline_of_isHexDigit hb
              · decide
          · exact .nil _

theorem Within.take_one {body : List UInt8} (hdigit : ∀ b ∈ body.head?, isDigit b = true) :
    Within (body.take 1) body := by
  cases body with
  | nil => exact .nil []
  | cons b body =>
      have hb : isNewline b = false :=
        isNewline_eq_false (p := isDigit) (by decide) (by decide) (hdigit b rfl)
      exact .cons hb (.nil body)

theorem hexBody?_within {body bs : List UInt8} (h : Numeral.hexBody? body = some bs) :
    Within (body.take 2) body := by
  unfold Numeral.hexBody? at h
  split at h
  · next x more =>
      split at h
      · next hx =>
          have hx : isNewline x = false := by
            rcases (by simpa using hx : x = 120 ∨ x = 88) with rfl | rfl <;> decide
          exact .cons (by decide) (.cons hx (.nil more))
      · cases h
  · cases h

/-- How the digits of a numeral begin, and what the exponent begins with. -/
def numeralStart (body : List UInt8) : List UInt8 × List UInt8 :=
  match Numeral.hexBody? body with
  | some _ => (body.take 2, [80, 112])
  | none => (body.take 1, [69, 101])

/-- The point that a numeral begins with. -/
def numeralPoint (rest : List UInt8) : List UInt8 :=
  if rest.head? = some 46 then [46] else []

/-- The text that is taken for a numeral. -/
def numeralRaw (rest : List UInt8) : List UInt8 :=
  let body := rest.drop (numeralPoint rest).length
  let more := body.drop (numeralStart body).1.length
  numeralPoint rest ++ (numeralStart body).1 ++ numeralText (numeralStart body).2 more.length more

/-- What is made of that text. -/
def numeralOf (raw rest : List UInt8) (line : Nat) : Scan Token :=
  let after := rest.drop raw.length
  if after.head?.any isNameStart then
    faultNear "malformed number" (raw ++ after.take 1) line
  else match Numeral.read? raw with
    | some (.int n) => .ok (.int n raw, ⟨after, line⟩)
    | some (.num x) => .ok (.num x raw, ⟨after, line⟩)
    | _ => faultNear "malformed number" raw line

theorem numeral_eq (rest : List UInt8) (line : Nat) :
    numeral rest line = numeralOf (numeralRaw rest) rest line := rfl

theorem numeralStart_within {body : List UInt8} (hdigit : ∀ b ∈ body.head?, isDigit b = true) :
    Within (numeralStart body).1 body ∧ ∀ b ∈ (numeralStart body).2, isNewline b = false := by
  unfold numeralStart
  split
  · next hhex =>
      have hmarks : ∀ b ∈ [80, 112], isNewline b = false := by simp [isNewline]
      exact ⟨hexBody?_within hhex, hmarks⟩
  · have hmarks : ∀ b ∈ [69, 101], isNewline b = false := by simp [isNewline]
    exact ⟨.take_one hdigit, hmarks⟩

theorem numeralPoint_within (rest : List UInt8) : Within (numeralPoint rest) rest := by
  unfold numeralPoint
  split
  · next hhead =>
      obtain ⟨after, rfl⟩ := List.head?_eq_some_iff.mp hhead
      exact .cons (by decide) (.nil after)
  · exact .nil rest

/-- The text of a numeral that begins with a digit, or with a point and a digit. -/
theorem numeralRaw_within
    (hdigit : ∀ b ∈ (rest.drop (numeralPoint rest).length).head?, isDigit b = true) :
    Within (numeralRaw rest) rest := by
  obtain ⟨hstart, hmarks⟩ := numeralStart_within hdigit
  refine ((numeralPoint_within rest).append hstart).append ?_
  rw [List.length_append, ← List.drop_drop]
  exact numeralText_within hmarks _ _

theorem numeral_counts (line : Nat)
    (hdigit : ∀ b ∈ (rest.drop (numeralPoint rest).length).head?, isDigit b = true) :
    Counts rest line (numeral rest line) := by
  have hpassed := (numeralRaw_within hdigit).passed line
  rw [numeral_eq]
  unfold numeralOf
  dsimp only
  split
  · exact counts_fault ..
  · split
    · exact hpassed
    · exact hpassed
    · exact counts_fault ..

/-! ## Tokens -/

theorem operator_passed (b : UInt8) (rest : List UInt8) (line : Nat) (hb : isNewline b = false) :
    Passed (b :: rest) line (operator b rest line).2.rest (operator b rest line).2.line := by
  have hoperators : ∀ o ∈ operators, (Text.toBytes o).length = o.length ∧
      ∀ c ∈ Text.toBytes o, isNewline c = false := by decide +kernel
  unfold operator
  split
  · next o hfound =>
      obtain ⟨hlength, hplain⟩ := hoperators o (List.mem_of_find?_eq_some hfound)
      have hfound := List.find?_some hfound
      have hstands := List.isPrefixOf_iff_prefix.mp hfound
      dsimp only
      rw [← hlength]
      exact Within.passed ⟨hstands, hplain⟩ line
  · dsimp only
    split <;> exact passed_byte hb rest line

/-- A guard before a numeral says that it begins with a digit behind its point. -/
theorem isDigit_of_guard (hguard : (isDigit b || (b = 46 && rest.head?.any isDigit)) = true) :
    ∀ d ∈ ((b :: rest).drop (numeralPoint (b :: rest)).length).head?, isDigit d = true := by
  intro d hd
  by_cases hpoint : b = 46
  · subst hpoint
    have hnot : isDigit 46 = false := by decide
    have hnext : rest.head?.any isDigit = true := by simpa [hnot] using hguard
    have hd : rest.head? = some d := by simpa [numeralPoint] using hd
    simpa [hd] using hnext
  · have hd : b = d := by simpa [numeralPoint, hpoint] using hd
    have hb : isDigit b = true := by simpa [hpoint] using hguard
    rwa [← hd]

/-- What is read behind two dashes: a comment, and the token after it. -/
def afterDashes (n : Nat) (rest : List UInt8) (line : Nat) : Scan Token :=
  match rest with
  | 91 :: more =>
      let (level, isLong) := longLevel 91 more
      if isLong then match long level "comment" more line with
        | .error e => .error e
        | .ok (_, s) => scan n s.rest s.line
      else scan n (rest.dropWhile (!isNewline ·)) line
  | _ => scan n (rest.dropWhile (!isNewline ·)) line

/-- What is read behind an opening bracket. -/
def afterBracket (rest : List UInt8) (line : Nat) : Scan Token :=
  let (level, isLong) := longLevel 91 rest
  if isLong then match long level "string" rest line with
    | .error e => .error e
    | .ok (bytes, s) =>
        let signs := List.replicate level 61
        .ok (.string bytes (91 :: signs ++ 91 :: bytes ++ 93 :: signs ++ [93]), s)
  else if level = 0 then .ok (.symbol "[", ⟨rest, line⟩)
  else faultNear "invalid long string delimiter" (91 :: List.replicate level 61) line

/-- What is read behind a quote. -/
def afterQuote (quote : UInt8) (rest : List UInt8) (line : Nat) : Scan Token :=
  match quoted quote (rest.length + 1) [quote] rest line with
  | .error e => .error e
  | .ok (raw, s) => .ok (.string (raw.drop 1).dropLast raw, s)

theorem scan_cons (n : Nat) (b : UInt8) (rest : List UInt8) (line : Nat) :
    scan (n + 1) (b :: rest) line =
      if isNewline b then scan n (skipNewline (b :: rest)) (line + 1)
      else if isSpace b then scan n rest line
      else if b = 45 && rest.head? = some 45 then afterDashes n (rest.drop 1) line
      else if b = 91 then afterBracket rest line
      else if b = 34 || b = 39 then afterQuote b rest line
      else if isDigit b || (b = 46 && rest.head?.any isDigit) then numeral (b :: rest) line
      else if isNameStart b then
        let text := b :: rest.takeWhile isNamePart
        let after := (b :: rest).drop text.length
        let word := String.ofList (text.map fun c => Char.ofNat c.toNat)
        .ok (if Token.reserved.contains word then .symbol word else .name word, ⟨after, line⟩)
      else .ok (operator b rest line) := rfl

section Parts

variable {n : Nat}

theorem afterDashes_counts
    (hscan : ∀ rest line, rest.length < n → Counts rest line (scan n rest line))
    (hrest : rest.length < n) (line : Nat) : Counts rest line (afterDashes n rest line) := by
  -- What is read after something has been skipped.
  have hlater : ∀ {rest' : List UInt8} {line' : Nat}, Passed rest line rest' line' →
      Counts rest line (scan n rest' line') :=
    fun hpassed => (hscan _ _ (Nat.lt_of_le_of_lt hpassed.length hrest)).of_passed hpassed
  have hline : Counts rest line (scan n (rest.dropWhile (!isNewline ·)) line) :=
    hlater (passed_dropWhile (fun b hb => by simpa using hb) rest line)
  unfold afterDashes
  dsimp only
  split
  · next more =>
      have hbracket : Passed (91 :: more) line more line := passed_byte (by decide) more line
      split
      · next hlong =>
          have hcomment := long_counts "comment" (Prod.ext rfl hlong) line
          split
          · next e hfault =>
              rw [hfault] at hcomment
              exact (Counts.of_error hcomment).of_passed hbracket
          · next s hread =>
              rw [hread] at hcomment
              exact hlater (hbracket.trans hcomment)
      · exact hline
  · exact hline

theorem afterBracket_counts (rest : List UInt8) (line : Nat) :
    Counts rest line (afterBracket rest line) := by
  unfold afterBracket
  dsimp only
  split
  · next hlong =>
      have hstring := long_counts "string" (Prod.ext rfl hlong) line
      split
      · next e hfault =>
          rw [hfault] at hstring
          exact Counts.of_error hstring
      · next bytes s hread =>
          rw [hread] at hstring
          exact hstring
  · split
    · exact Passed.refl rest line
    · exact counts_fault ..

theorem afterQuote_counts (hb : isNewline b = false) (rest : List UInt8) (line : Nat) :
    Counts rest line (afterQuote b rest line) := by
  have hquoted := quoted_counts b (rest.length + 1) [b] rest line hb
  unfold afterQuote
  split
  · next e hfault =>
      rw [hfault] at hquoted
      exact Counts.of_error hquoted
  · next raw s hread =>
      rw [hread] at hquoted
      exact hquoted

end Parts

/-- Reading the next token keeps count of the lines. -/
theorem scan_counts (n : Nat) (rest : List UInt8) (line : Nat) (hn : rest.length < n) :
    Counts rest line (scan n rest line) := by
  induction n generalizing rest line with
  | zero => omega
  | succ n ih =>
      cases rest with
      | nil => exact Passed.refl [] line
      | cons b rest =>
          have hrest : rest.length < n := by simpa using hn
          rw [scan_cons]
          split
          · next hnewline =>
              have hshort := length_skipNewline_lt b rest
              exact (ih _ _ (by omega)).of_passed (passed_newline hnewline rest line)
          next hb =>
          have hbyte := passed_byte (by simpa using hb) rest line
          split
          · exact (ih _ _ hrest).of_passed hbyte
          split
          · next hdashes =>
              obtain ⟨after, rfl⟩ : ∃ after, rest = 45 :: after := by
                simp only [Bool.and_eq_true, decide_eq_true_eq] at hdashes
                exact List.head?_eq_some_iff.mp hdashes.2
              have hcomment := afterDashes_counts ih (Nat.lt_of_succ_lt hrest) line
              exact hcomment.of_passed (hbyte.trans (passed_byte (by decide) after line))
          split
          · exact (afterBracket_counts rest line).of_passed hbyte
          split
          · exact (afterQuote_counts (by simpa using hb) rest line).of_passed hbyte
          split
          · next hdigit => exact numeral_counts line (isDigit_of_guard hdigit)
          split
          · exact (Within.cons (by simpa using hb)
              (within_takeWhile (p := isNamePart) (by decide) (by decide) rest)).passed line
          · exact operator_passed b rest line (by simpa using hb)

/-- The next token is read with count of the lines. -/
theorem next_counts (s : Source) : Counts s.rest s.line s.next :=
  scan_counts _ s.rest s.line (Nat.lt_succ_self _)

end Bytes

/-! ## From token to token -/

/-- Tokens are read from one place of a source to another. -/
inductive Reads : Source → Source → Prop where
  | none (s : Source) : Reads s s
  | next {s s' s'' : Source} {t : Token} : Reads s s' → s'.next = .ok (t, s'') → Reads s s''

section Reads

variable {s s' : Source} {t : Token}

/-- The number of the line and the breaks that are still to come make the same sum after a token as
before it. -/
theorem next_line (h : s.next = .ok (t, s')) :
    s'.line + breaks s'.rest = s.line + breaks s.rest := by
  have hcounts := next_counts s
  rw [h] at hcounts
  exact hcounts.line

theorem line_of_reads (h : Reads s s') : s'.line + breaks s'.rest = s.line + breaks s.rest := by
  induction h with
  | none => rfl
  | next _ hnext ih => rw [next_line hnext, ih]

/-- No fault is reported behind the last line. -/
theorem fault_line_le {message : List UInt8} {n : Nat} (h : Reads s s')
    (hfault : s'.next = .error (.atLine message n)) : n ≤ s.line + breaks s.rest := by
  have hcounts := next_counts s'
  rw [hfault] at hcounts
  rw [← line_of_reads h]
  exact hcounts

end Reads

end LuaShell.Lua.Source
