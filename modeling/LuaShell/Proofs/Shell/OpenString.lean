import LuaShell.Proofs.Lua.Piece
import LuaShell.Proofs.Shell.Completion
import LuaShell.Proofs.Text.Utf8
import Mathlib

/-!
# Strings that are open at the cursor

A scan of the line up to the cursor decides whether the cursor is in a string.  It counts quotes:
one opens a string, and the next one of its kind closes it.  The lexer knows more than that.  The two
agree behind each part of a line if and only if no quote of the line is hidden from the lexer
(`openString_agrees_with_lexer`): one in a comment or in a long bracket, or one in a literal of its
own kind, behind a backslash.

Up to the first hidden quote they agree character by character (`Agrees.step`).  Behind a hidden one
they cannot agree if they did before it (`not_agrees_of_hiddenQuote`), since it changes what the scan
has found, and nothing for the lexer.
-/

namespace LuaShell.Completion

open LuaShell.Lua (Source)
open LuaShell.Lua.Source (Cut isQuote Reads)

/-! ## Literals and hidden quotes -/

/-- A place in a literal, which is behind the opening quote and not behind the closing one. -/
def InLiteral (s : Source) (start place : Nat) : Prop :=
  ∃ t first stop, s.Cut (.literal t) first stop ∧ start = first + 1 ∧ first < place ∧ place < stop

/-- A quote that the lexer reads over: in a comment or a long bracket, or in a literal that began
with the same quote, behind a backslash. -/
def HiddenQuote (s : Source) (k : Nat) : Prop :=
  ∃ quote p first stop, isQuote quote = true ∧ s.rest[k]? = some quote ∧ s.Cut p first stop ∧
    first ≤ k ∧ k < stop ∧ match p with
      | .comment | .long _ => True
      | .literal _ => first < k ∧ k + 1 < stop ∧ s.rest[first]? = some quote ∧
          s.rest[k - 1]? = some 92
      | .blank | .other _ => False

/-! ## Characters that are quotes -/

/-- The byte that a quote is written as. -/
def quoteByte (c : Char) : UInt8 :=
  UInt8.ofNat c.toNat

section Quotes

variable {s : Source} {c c' : Char} {b : UInt8} {place k : Nat}

theorem utf8EncodeChar_of_isQuote (hc : IsQuote c) : String.utf8EncodeChar c = [quoteByte c] := by
  rcases hc with rfl | rfl <;> decide

theorem utf8Size_of_isQuote (hc : IsQuote c) : c.utf8Size = 1 := by
  rcases hc with rfl | rfl <;> decide

theorem isQuote_quoteByte (hc : IsQuote c) : isQuote (quoteByte c) = true := by
  rcases hc with rfl | rfl <;> decide

theorem quoteByte_inj (hc : IsQuote c) (hc' : IsQuote c') (h : quoteByte c = quoteByte c') :
    c = c' := by
  rcases hc with rfl | rfl <;> rcases hc' with rfl | rfl <;> first | rfl | cases h

/-- Only a quote is written with the byte of one. -/
theorem isQuote_of_mem_utf8EncodeChar (hb : b ∈ String.utf8EncodeChar c)
    (hquote : isQuote b = true) : IsQuote c := by
  have hvalue : b.toNat = 34 ∨ b.toNat = 39 := by
    rcases (by simpa [isQuote] using hquote : b = 34 ∨ b = 39) with rfl | rfl <;> decide
  rcases Text.toNat_of_mem_utf8EncodeChar hb with hsame | hlarge
  · rcases hvalue with hb | hb
    · exact .inl (Char.toNat_inj.mp (hsame.symm.trans hb))
    · exact .inr (Char.toNat_inj.mp (hsame.symm.trans hb))
  · omega

/-- A character is written at a place of a source. -/
def Stands (s : Source) (place : Nat) (c : Char) : Prop :=
  String.utf8EncodeChar c <+: s.rest.drop place

theorem Stands.quote (h : Stands s place c) (hc : IsQuote c) :
    s.rest[place]? = some (quoteByte c) := by
  obtain ⟨after, hafter⟩ := h
  rw [utf8EncodeChar_of_isQuote hc] at hafter
  rw [← List.head?_drop, ← hafter]
  rfl

/-- A byte that is a quote is a whole character. -/
theorem Stands.isQuote (h : Stands s place c) (hlow : place ≤ k) (hhigh : k < place + c.utf8Size)
    (hk : s.rest[k]? = some b) (hquote : isQuote b = true) :
    IsQuote c ∧ k = place ∧ b = quoteByte c := by
  obtain ⟨after, hafter⟩ := h
  have hmem : b ∈ String.utf8EncodeChar c := by
    have hbyte : (s.rest.drop place)[k - place]? = some b := by
      rw [List.getElem?_drop, Nat.add_sub_cancel' hlow, hk]
    rw [← hafter, List.getElem?_append_left (by rw [String.length_utf8EncodeChar]; omega)] at hbyte
    exact List.mem_of_getElem? hbyte
  have hc := isQuote_of_mem_utf8EncodeChar hmem hquote
  rw [utf8Size_of_isQuote hc] at hhigh
  rw [utf8EncodeChar_of_isQuote hc, List.mem_singleton] at hmem
  exact ⟨hc, by omega, hmem⟩

end Quotes

/-! ## What the scan has found -/

/-- The string that is open behind some characters, with its quote. -/
def openedFrom (index : Nat) (opened : Option (Nat × Char)) : List Char → Option (Nat × Char)
  | [] => opened
  | c :: cs => openedFrom (index + c.utf8Size) (openedBehind index opened c) cs

theorem openStringFrom_eq (index : Nat) (opened : Option (Nat × Char)) (cs : List Char) :
    openStringFrom index opened cs = (openedFrom index opened cs).map (·.1 + 1) := by
  induction cs generalizing index opened with
  | nil => rfl
  | cons c cs ih => rw [openStringFrom_cons, ih, openedFrom]

theorem openedFrom_concat (index : Nat) (opened : Option (Nat × Char)) (cs : List Char) (c : Char) :
    openedFrom index opened (cs ++ [c]) =
      openedBehind (index + byteLength cs) (openedFrom index opened cs) c := by
  induction cs generalizing index opened with
  | nil => rfl
  | cons d cs ih => rw [List.cons_append, openedFrom, ih, openedFrom, byteLength, Nat.add_assoc]

/-- The string that is open behind the beginning of a line. -/
def openedBy (read : List Char) : Option (Nat × Char) :=
  openedFrom 0 none read

theorem openStringStart?_eq (read : List Char) :
    openStringStart? read = (openedBy read).map (·.1 + 1) :=
  openStringFrom_eq 0 none read

theorem openedBy_concat (read : List Char) (c : Char) :
    openedBy (read ++ [c]) = openedBehind (byteLength read) (openedBy read) c := by
  rw [openedBy, openedFrom_concat, Nat.zero_add]
  rfl

theorem openedIn_openedBy (read : List Char) : OpenedIn read (openedBy read) := by
  induction read using List.reverseRecOn with
  | nil => exact fun place quote hsome => by cases hsome
  | append_singleton read c ih =>
      rw [openedBy_concat]
      exact ih.concat c

/-! ## Character by character -/

/-- What the scan has found behind a place is the literal that the lexer is in. -/
def Agrees (s : Source) (place : Nat) : Option (Nat × Char) → Prop
  | none => ∀ start, ¬ InLiteral s start place
  | some (first, quote) => IsQuote quote ∧ s.rest[first]? = some (quoteByte quote) ∧
      ∃ t stop, s.Cut (.literal t) first stop ∧ first < place ∧ place < stop

section Step

variable {s : Source} {place : Nat} {c : Char} {opened : Option (Nat × Char)}

theorem InLiteral.unique {start start' : Nat} (h : InLiteral s start place)
    (h' : InLiteral s start' place) : start = start' := by
  obtain ⟨t, first, stop, hcut, rfl, hfirst, hstop⟩ := h
  obtain ⟨t', first', stop', hcut', rfl, hfirst', hstop'⟩ := h'
  obtain ⟨-, rfl, -⟩ := hcut.unique hcut' (Nat.le_of_lt hfirst) hstop (Nat.le_of_lt hfirst') hstop'
  rfl

theorem Agrees.iff (h : Agrees s place opened) (start : Nat) :
    opened.map (·.1 + 1) = some start ↔ InLiteral s start place := by
  cases opened with
  | none => simpa using h start
  | some o =>
      obtain ⟨first, quote⟩ := o
      obtain ⟨-, -, t, stop, hcut, hfirst, hstop⟩ := h
      have hin : InLiteral s (first + 1) place := ⟨t, first, stop, hcut, rfl, hfirst, hstop⟩
      constructor
      · intro hstart
        obtain rfl := Option.some.inj hstart
        exact hin
      · intro hstart
        exact congrArg some (hin.unique hstart)

/-- A character that is no quote opens nothing. -/
theorem agrees_plain (h : Agrees s place none) (hstands : Stands s place c) (hc : ¬ IsQuote c) :
    Agrees s (place + c.utf8Size) none := by
  rintro start ⟨t, first, stop, hcut, rfl, hfirst, hstop⟩
  by_cases hbefore : first < place
  · exact h (first + 1) ⟨t, first, stop, hcut, rfl, hbefore, by omega⟩
  · obtain ⟨-, quote, hquote, hopening, -⟩ := hcut.literal
    exact hc (hstands.isQuote (by omega) hfirst hopening hquote).1

/-- A quote outside of literals opens one. -/
theorem agrees_opening (h : Agrees s place none) (hstands : Stands s place c) (hc : IsQuote c)
    (hcut : ∃ p first stop, s.Cut p first stop ∧ first ≤ place ∧ place < stop)
    (hplain : ¬ HiddenQuote s place) : Agrees s (place + 1) (some (place, c)) := by
  obtain ⟨p, first, stop, hcut, hfirst, hstop⟩ := hcut
  have hbyte := hstands.quote hc
  have hquote := isQuote_quoteByte hc
  have hshown : ¬ (p = .blank ∨ ∃ t, p = .other t) := by
    intro hp
    rw [hcut.not_quote hp hfirst hstop hbyte] at hquote
    cases hquote
  cases p with
  | blank => exact absurd (.inl rfl) hshown
  | other t => exact absurd (.inr ⟨t, rfl⟩) hshown
  | comment => exact absurd ⟨_, _, first, stop, hquote, hbyte, hcut, hfirst, hstop, trivial⟩ hplain
  | long t => exact absurd ⟨_, _, first, stop, hquote, hbyte, hcut, hfirst, hstop, trivial⟩ hplain
  | literal t =>
      rcases Nat.lt_or_eq_of_le hfirst with hinside | rfl
      · exact absurd ⟨t, first, stop, hcut, rfl, hinside, hstop⟩ (h (first + 1))
      · have hlonger := hcut.literal.1
        exact ⟨hc, hbyte, t, stop, hcut, Nat.lt_succ_self _, hlonger⟩

section Inside

variable {first : Nat} {quote : Char}

/-- A literal goes on behind each other character. -/
theorem agrees_inside (h : Agrees s place (some (first, quote))) (hstands : Stands s place c)
    (hc : c ≠ quote) : Agrees s (place + c.utf8Size) (some (first, quote)) := by
  obtain ⟨hquote, hopening, t, stop, hcut, hfirst, hstop⟩ := h
  refine ⟨hquote, hopening, t, stop, hcut, by omega, ?_⟩
  -- Otherwise the closing quote would be in this character.
  by_contra hend
  obtain ⟨hlonger, b, hb, hopening', hclosing, -⟩ := hcut.literal
  obtain rfl : b = quoteByte quote := Option.some.inj (hopening'.symm.trans hopening)
  obtain ⟨hc', -, hsame⟩ := hstands.isQuote (by omega) (by omega) hclosing hb
  exact hc (quoteByte_inj hc' hquote hsame.symm)

/-- A literal is closed by a quote of its kind that is not hidden. -/
theorem agrees_closing (h : Agrees s place (some (first, quote))) (hstands : Stands s place quote)
    (hplain : ¬ HiddenQuote s place) : Agrees s (place + 1) none := by
  obtain ⟨hquote, hopening, t, stop, hcut, hfirst, hstop⟩ := h
  have hbyte := hstands.quote hquote
  obtain ⟨-, b, hb, hopening', -, hescaped⟩ := hcut.literal
  obtain rfl : b = quoteByte quote := Option.some.inj (hopening'.symm.trans hopening)
  have hend : stop = place + 1 := by
    by_contra hmore
    have hlonger : place + 1 < stop := by omega
    exact hplain ⟨_, _, first, stop, hb, hbyte, hcut, by omega, hstop, hfirst, hlonger, hopening,
      hescaped place hfirst hlonger hbyte⟩
  rintro start ⟨t', first', stop', hcut', rfl, hfirst', hstop'⟩
  obtain ⟨-, -, rfl⟩ := hcut.unique hcut' (Nat.le_of_lt hfirst) hstop (by omega) (by omega)
  omega

end Inside

/-- Behind a character that is no hidden quote the scan and the lexer agree if they did before
it. -/
theorem Agrees.step (h : Agrees s place opened) (hstands : Stands s place c)
    (hcut : ∃ p first stop, s.Cut p first stop ∧ first ≤ place ∧ place < stop)
    (hplain : ¬ HiddenQuote s place) :
    Agrees s (place + c.utf8Size) (openedBehind place opened c) := by
  cases opened with
  | none =>
      rw [openedBehind]
      split
      · next hc =>
          have hc : IsQuote c := by simpa [IsQuote] using hc
          rw [utf8Size_of_isQuote hc]
          exact agrees_opening h hstands hc hcut hplain
      · next hc => exact agrees_plain h hstands (by simpa [IsQuote] using hc)
  | some o =>
      obtain ⟨first, quote⟩ := o
      rw [openedBehind]
      split
      · next hc =>
          subst hc
          rw [utf8Size_of_isQuote h.1]
          exact agrees_closing h hstands hplain
      · next hc => exact agrees_inside h hstands hc

end Step

/-! ## Lines -/

section Lines

variable {s a : Source} {line before after : List Char} {more : List UInt8} {c : Char} {k : Nat}

theorem length_flatMap (cs : List Char) :
    (cs.flatMap String.utf8EncodeChar).length = byteLength cs :=
  (byteLength_eq_byteCount cs).symm

theorem stands_of_split
    (hline : s.rest = (before ++ c :: after).flatMap String.utf8EncodeChar ++ more) :
    Stands s (byteLength before) c := by
  rw [Stands, hline, List.flatMap_append, List.flatMap_cons, List.append_assoc,
    ← length_flatMap before, List.drop_left, List.append_assoc]
  exact List.prefix_append _ _

/-- The lexer gets past a line without a fault. -/
structure Passes (s : Source) (line : List Char) (more : List UInt8) : Prop where
  begins : s.rest = line.flatMap String.utf8EncodeChar ++ more
  reads : ∃ a, Reads s a ∧ a.rest.length ≤ more.length

theorem Passes.cut (h : Passes s line more) (hk : k < byteLength line) :
    ∃ p first stop, s.Cut p first stop ∧ first ≤ k ∧ k < stop := by
  obtain ⟨a, hreads, hpast⟩ := h.reads
  refine Source.exists_cut (Source.reaches_of_reads hreads) ?_
  rw [h.begins, List.length_append, length_flatMap]
  omega

/-- Without hidden quotes the scan and the lexer agree everywhere. -/
theorem agrees_openedBy (h : Passes s line more) (hplain : ∀ k < byteLength line, ¬ HiddenQuote s k)
    (hwhole : line = before ++ after) : Agrees s (byteLength before) (openedBy before) := by
  induction before using List.reverseRecOn generalizing after with
  | nil =>
      rintro start ⟨t, first, stop, -, -, hfirst, -⟩
      exact absurd hfirst (Nat.not_lt_zero first)
  | append_singleton before c ih =>
      rw [List.append_assoc, List.singleton_append] at hwhole
      have hplace : byteLength before < byteLength line := by
        have hpos := c.utf8Size_pos
        rw [hwhole, byteLength_append, byteLength]
        omega
      have hstands : Stands s (byteLength before) c := stands_of_split (hwhole ▸ h.begins)
      have hnext : byteLength (before ++ [c]) = byteLength before + c.utf8Size := by
        rw [byteLength_append]
        rfl
      rw [hnext, openedBy_concat]
      exact (ih hwhole).step hstands (h.cut hplace) (hplain _ hplace)

/-- A hidden quote is a character of the line. -/
theorem exists_char_of_hiddenQuote (hline : s.rest = line.flatMap String.utf8EncodeChar ++ more)
    (hk : k < byteLength line) (hhidden : HiddenQuote s k) :
    ∃ before c after, line = before ++ c :: after ∧ k = byteLength before ∧ IsQuote c := by
  obtain ⟨quote, -, -, -, hquote, hbyte, -⟩ := hhidden
  rw [byteLength_eq_byteCount] at hk
  obtain ⟨before, c, after, rfl, hlow, hhigh⟩ := Text.exists_cut hk
  rw [← byteLength_eq_byteCount] at hlow hhigh
  obtain ⟨hc, hplace, -⟩ := (stands_of_split hline).isQuote hlow hhigh hbyte hquote
  exact ⟨before, c, after, rfl, hplace, hc⟩

/-- Nothing that is no literal is read in one. -/
theorem not_inLiteral {p : Source.Piece} {first stop start place : Nat} (hcut : s.Cut p first stop)
    (hp : ∀ t, p ≠ .literal t) (hfirst : first ≤ k) (hstop : k < stop)
    (hplace : place = k ∨ place = k + 1) : ¬ InLiteral s start place := by
  rintro ⟨t, first', stop', hcut', -, hfirst', hstop'⟩
  obtain ⟨rfl, -, -⟩ := hcut.unique hcut' hfirst hstop (by omega) (by omega)
  exact hp t rfl

/-- Before a hidden quote or behind it the scan and the lexer differ. -/
theorem not_agrees_of_hiddenQuote
    (hline : s.rest = (before ++ c :: after).flatMap String.utf8EncodeChar ++ more)
    (hc : IsQuote c) (hhidden : HiddenQuote s (byteLength before))
    (hbefore : ∀ start, openStringStart? before = some start ↔
      InLiteral s start (byteLength before))
    (hbehind : ∀ start, openStringStart? (before ++ [c]) = some start ↔
      InLiteral s start (byteLength before + 1)) : False := by
  obtain ⟨quote, p, first, stop, hquote, hbyte, hcut, hfirst, hstop, hkind⟩ := hhidden
  simp only [openStringStart?_eq, openedBy_concat] at hbefore hbehind
  -- Outside of literals the quote opens one for the scan.
  have houtside : (∀ t, p ≠ .literal t) → False := by
    intro hp
    have hnone : openedBy before = none := by
      cases hopened : openedBy before with
      | none => rfl
      | some o =>
          rw [hopened] at hbefore
          exact absurd ((hbefore _).mp rfl) (not_inLiteral hcut hp hfirst hstop (.inl rfl))
    have hopens : openedBehind (byteLength before) none c = some (byteLength before, c) :=
      if_pos (by simpa [IsQuote] using hc)
    rw [hnone, hopens] at hbehind
    exact not_inLiteral hcut hp hfirst hstop (.inr rfl) ((hbehind _).mp rfl)
  cases p with
  | blank => exact hkind
  | other t => exact hkind
  | comment => exact houtside fun t ht => by cases ht
  | long t => exact houtside fun t ht => by cases ht
  | literal t =>
      -- In a literal of its kind the quote closes it for the scan.
      obtain ⟨hinside, hlonger, hopening, -⟩ := hkind
      obtain ⟨⟨place, quote'⟩, hopened, hplace⟩ := Option.map_eq_some_iff.mp
        ((hbefore (first + 1)).mpr ⟨t, first, stop, hcut, rfl, hinside, hstop⟩)
      obtain ⟨hquote', init, text, rfl, hinit⟩ := openedIn_openedBy before place quote' hopened
      have hkept : c = quote' := by
        rw [List.append_assoc, List.cons_append] at hline
        have hfirst' : first = byteLength init := by omega
        rw [hfirst', (stands_of_split hline).quote hquote', Option.some.injEq] at hopening
        rw [← List.cons_append, ← List.append_assoc] at hline
        rw [(stands_of_split hline).quote hc, Option.some.injEq, ← hopening] at hbyte
        exact quoteByte_inj hc hquote' hbyte
      have hcloses : openedBehind (byteLength (init ++ quote' :: text)) (some (place, quote')) c =
          none := if_pos hkept
      rw [hopened, hcloses] at hbehind
      have hstill : InLiteral s (first + 1) (byteLength (init ++ quote' :: text) + 1) :=
        ⟨t, first, stop, hcut, rfl, by omega, hlonger⟩
      cases (hbehind _).mpr hstill

end Lines

/-- A line that the lexer gets past without a fault is scanned as the lexer reads it, behind each
part of it, if and only if none of its quotes is hidden. -/
theorem openString_agrees_with_lexer {line : String} {more : List UInt8} {number : Nat} {a : Source}
    (hreads : Reads ⟨Text.toBytes line ++ more, number⟩ a) (hpast : a.rest.length ≤ more.length) :
    (∀ before after : String, line = before ++ after → ∀ start,
      openStringStart? before.toList = some start ↔
        InLiteral ⟨Text.toBytes line ++ more, number⟩ start before.utf8ByteSize) ↔
      ∀ k < line.utf8ByteSize, ¬ HiddenQuote ⟨Text.toBytes line ++ more, number⟩ k := by
  have hpasses : Passes ⟨Text.toBytes line ++ more, number⟩ line.toList more :=
    ⟨by rw [Text.toBytes_eq_flatMap], a, hreads, hpast⟩
  rw [← byteLength_toList]
  constructor
  · intro hagrees k hk hhidden
    obtain ⟨before, c, after, hwhole, rfl, hc⟩ :=
      exists_char_of_hiddenQuote hpasses.begins hk hhidden
    -- The claim for a part of the line, as characters.
    have hpart : ∀ cs ds, line.toList = cs ++ ds → ∀ start, openStringStart? cs = some start ↔
        InLiteral ⟨Text.toBytes line ++ more, number⟩ start (byteLength cs) := by
      intro cs ds hsplit start
      have hline : line = String.ofList cs ++ String.ofList ds := by
        rw [← String.ofList_append, ← hsplit, String.ofList_toList]
      have hat := hagrees _ _ hline start
      rwa [← byteLength_toList, String.toList_ofList] at hat
    have hbehind := hpart (before ++ [c]) after (by simpa using hwhole)
    simp only [byteLength_append, byteLength, utf8Size_of_isQuote hc, Nat.add_zero] at hbehind
    exact not_agrees_of_hiddenQuote (hwhole ▸ hpasses.begins) hc hhidden
      (hpart before (c :: after) hwhole) hbehind
  · intro hplain before after hwhole start
    have hagrees : Agrees _ (byteLength before.toList) (openedBy before.toList) :=
      agrees_openedBy hpasses hplain (hwhole ▸ String.toList_append)
    rw [openStringStart?_eq, ← byteLength_toList]
    exact hagrees.iff start

/-- A line with an apostrophe between double quotes and a comment behind them. -/
theorem openString_agrees_with_lexer_apostrophe :
    let line := "cd\"it's\"--"
    let s : Source := ⟨Text.toBytes line, 1⟩
    (∃ a, Reads s a ∧ a.rest = []) ∧ (∀ k < line.utf8ByteSize, ¬ HiddenQuote s k) ∧
      ∀ before after : String, line = before ++ after → ∀ start,
        openStringStart? before.toList = some start ↔ InLiteral s start before.utf8ByteSize := by
  intro line s
  have hname : s.next = .ok (.name "cd", ⟨[34, 105, 116, 39, 115, 34, 45, 45], 1⟩) := by cbv
  have hstring : (Source.mk [34, 105, 116, 39, 115, 34, 45, 45] 1).next =
      .ok (.string [105, 116, 39, 115] [34, 105, 116, 39, 115, 34], ⟨[45, 45], 1⟩) := by cbv
  have hend : (Source.mk [45, 45] 1).next = .ok (.eof, ⟨[], 1⟩) := by cbv
  have hreads : Reads s ⟨[], 1⟩ := (((Reads.none s).next hname).next hstring).next hend
  have hliteral : s.Cut (.literal (.string [105, 116, 39, 115] [34, 105, 116, 39, 115, 34])) 2 8 :=
    ⟨_, ⟨[45, 45], 1⟩, Source.reaches_of_reads ((Reads.none s).next hname),
      ⟨34, [105, 116, 39, 115, 34, 45, 45], rfl, by cbv⟩, rfl, rfl⟩
  have hplain : ∀ k < line.utf8ByteSize, ¬ HiddenQuote s k := by
    rintro k hk ⟨quote, p, first, stop, hquote, hbyte, hcut, hfirst, hstop, hkind⟩
    have hplaces : ∀ k < 10, ∀ b ∈ s.rest[k]?, isQuote b = true → k = 2 ∨ k = 5 ∨ k = 7 := by
      decide +kernel
    have hk : 2 ≤ k ∧ k < 8 := by
      have hplace := hplaces k hk quote hbyte hquote
      omega
    obtain ⟨rfl, rfl, rfl⟩ := hcut.unique hliteral hfirst hstop hk.1 hk.2
    obtain ⟨hinside, hlonger, hopening, -⟩ := hkind
    obtain rfl : k = 5 := by
      have hplace := hplaces k (by omega) quote hbyte hquote
      omega
    exact absurd (hopening.trans hbyte.symm) (by decide)
  have hsame : s = ⟨Text.toBytes line ++ [], 1⟩ := by rw [List.append_nil]
  refine ⟨⟨_, hreads, rfl⟩, hplain, ?_⟩
  rw [hsame] at hreads hplain ⊢
  exact (openString_agrees_with_lexer hreads (Nat.le_refl _)).mpr hplain

/-- Behind an escaped quote the scan is out of the string that the lexer is in. In a comment and in
a long bracket it is in one where the lexer is in none. -/
theorem openString_misled :
    (InLiteral ⟨Text.toBytes "'\\''", 1⟩ 1 3 ∧ openStringStart? "'\\'".toList = none) ∧
    (openStringStart? "--'".toList = some 3 ∧ ¬ InLiteral ⟨Text.toBytes "--'", 1⟩ 3 3) ∧
    openStringStart? "[['".toList = some 3 ∧ ¬ InLiteral ⟨Text.toBytes "[[']]", 1⟩ 3 3 := by
  have hescaped : Source.Cut ⟨Text.toBytes "'\\''", 1⟩ (.literal (.string [39] [39, 39, 39])) 0 4 :=
    ⟨_, ⟨[], 1⟩, .refl, ⟨39, [92, 39, 39], rfl, by cbv⟩, rfl, rfl⟩
  have hcomment : Source.Cut ⟨Text.toBytes "--'", 1⟩ .comment 0 3 :=
    ⟨_, ⟨[], 1⟩, .refl, ⟨45, [45, 39], rfl, by cbv⟩, rfl, rfl⟩
  have hbracket : Source.Cut ⟨Text.toBytes "[[']]", 1⟩
      (.long (.string [39] [91, 91, 39, 93, 93])) 0 5 :=
    ⟨_, ⟨[], 1⟩, .refl, ⟨91, [91, 39, 93, 93], rfl, by cbv⟩, rfl, rfl⟩
  refine ⟨⟨⟨_, 0, 4, hescaped, rfl, by omega, by omega⟩, by decide⟩, ⟨by decide, ?_⟩, by decide, ?_⟩
  · exact not_inLiteral (k := 2) hcomment (fun t ht => by cases ht) (by omega) (by omega) (.inr rfl)
  · exact not_inLiteral (k := 2) hbracket (fun t ht => by cases ht) (by omega) (by omega) (.inr rfl)

end LuaShell.Completion
