import LuaShell.Proofs.Lua.LineNumber
import LuaShell.Proofs.Script.Location
import LuaShell.Proofs.Script.Underline
import LuaShell.Proofs.Text.Utf8

/-!
# Two ways to count lines

The line number in a message is counted by the lexer, for which a line feed, a return, and one of
each in either order are one break (`counted`): wherever it has come to, the line that it knows is
the one behind the lines counted before that place (`line_of_lexer`).  The source line of a
diagnostic is looked up by line feeds alone.

Both agree on every line of a source in which no return stands alone, but for one at the very end,
and no text follows a line feed with a return behind it (`Regular`).  A source that does not end in
a return has to be of that kind for all its lines to be shown (`ofError_counted_lines`): each lone
return makes the numbers of all later lines too great by one, and a return that belongs to the break
before a line is shown as a part of that line.
-/

namespace LuaShell.Diagnostic

/-- What the lexer counts as one break of a line. -/
inductive LineBreak where
  | feed
  | ret
  | retFeed
  | feedRet
  deriving DecidableEq

def LineBreak.text : LineBreak → List Char
  | .feed => ['\n']
  | .ret => ['\r']
  | .retFeed => ['\r', '\n']
  | .feedRet => ['\n', '\r']

/-- A source as the lexer counts its lines: each line with the break that ends it, and the text
behind the last break. -/
structure Counted where
  lines : List (List Char × LineBreak)
  last : List Char
  deriving DecidableEq

namespace Counted

/-- The source that was counted. -/
def text (s : Counted) : List Char :=
  s.lines.flatMap (fun line => line.1 ++ line.2.text) ++ s.last

/-- A break before the source. -/
def broken (b : LineBreak) (s : Counted) : Counted :=
  { s with lines := ([], b) :: s.lines }

/-- A character that breaks no line before the source. -/
def begun (c : Char) (s : Counted) : Counted :=
  match s.lines with
  | [] => { s with last := c :: s.last }
  | (l, b) :: ls => { s with lines := (c :: l, b) :: ls }

/-- The texts of the lines; behind the last break only some text is a line. -/
def texts (s : Counted) : List (List Char) :=
  s.lines.map Prod.fst ++ if s.last = [] then [] else [s.last]

/-- The text that the source begins with. -/
def first (s : Counted) : List Char :=
  (s.lines.head?.map Prod.fst).getD s.last

end Counted

/-- Count the lines of a source. Two different characters that break lines are one break. -/
def counted : List Char → Counted
  | [] => ⟨[], []⟩
  | '\r' :: '\n' :: cs => (counted cs).broken .retFeed
  | '\n' :: '\r' :: cs => (counted cs).broken .feedRet
  | '\r' :: cs => (counted cs).broken .ret
  | '\n' :: cs => (counted cs).broken .feed
  | c :: cs => (counted cs).begun c

example : (counted "a\r\n\rb\n\n\rc".toList).texts = ["a", "", "b", "", "c"].map String.toList := by
  decide

/-- The text of a line as the lexer counts it, from one on. -/
def CountedLine (source : List Char) (n : Nat) (text : List Char) : Prop :=
  1 ≤ n ∧ (counted source).texts[n - 1]? = some text

/-- No return stands alone, but for one at the end, and no text stands behind a line feed with a
return behind it. -/
def RegularLines : List (List Char × LineBreak) → List Char → Prop
  | [], _ => True
  | (_, .feed) :: ls, last => RegularLines ls last
  | (_, .retFeed) :: ls, last => RegularLines ls last
  | (_, .feedRet) :: ls, last => (Counted.mk ls last).first = [] ∧ RegularLines ls last
  | (_, .ret) :: ls, last => ls = [] ∧ last = []

instance decidableRegularLines : ∀ ls last, Decidable (RegularLines ls last)
  | [], _ => isTrue trivial
  | (_, .feed) :: ls, last => decidableRegularLines ls last
  | (_, .retFeed) :: ls, last => decidableRegularLines ls last
  | (_, .feedRet) :: ls, last =>
      have := decidableRegularLines ls last
      inferInstanceAs (Decidable (_ ∧ _))
  | (_, .ret) :: _, _ => inferInstanceAs (Decidable (_ ∧ _))

/-- The breaks of a source are regular. -/
def Regular (source : List Char) : Prop :=
  RegularLines (counted source).lines (counted source).last

instance (source : List Char) : Decidable (Regular source) :=
  decidableRegularLines _ _

/-! ## What was counted -/

namespace Counted

theorem text_broken (b : LineBreak) (s : Counted) : (s.broken b).text = b.text ++ s.text := by
  simp [text, broken]

theorem text_begun (c : Char) (s : Counted) : (s.begun c).text = c :: s.text := by
  rcases s with ⟨_ | ⟨⟨l, b⟩, ls⟩, last⟩ <;> simp [text, begun]

/-- No text of a line holds a character that breaks lines. -/
def Plain (s : Counted) : Prop :=
  (∀ line ∈ s.lines, '\n' ∉ line.1 ∧ '\r' ∉ line.1) ∧ '\n' ∉ s.last ∧ '\r' ∉ s.last

theorem Plain.broken {s : Counted} (h : s.Plain) (b : LineBreak) : (s.broken b).Plain := by
  refine ⟨fun line hline => ?_, h.2⟩
  rcases List.mem_cons.mp hline with rfl | hline
  · simp
  · exact h.1 line hline

theorem Plain.begun {s : Counted} (h : s.Plain) {c : Char} (hfeed : c ≠ '\n') (hret : c ≠ '\r') :
    (s.begun c).Plain := by
  rcases s with ⟨_ | ⟨⟨l, b⟩, ls⟩, last⟩
  · obtain ⟨-, hn, hr⟩ := h
    exact ⟨by simp [Counted.begun], by simp [Counted.begun, hfeed.symm, hn],
      by simp [Counted.begun, hret.symm, hr]⟩
  · obtain ⟨hlines, hlast⟩ := h
    refine ⟨fun line hline => ?_, hlast⟩
    rcases List.mem_cons.mp hline with rfl | hline
    · simpa [hfeed.symm, hret.symm] using hlines (l, b) List.mem_cons_self
    · exact hlines line (List.mem_cons_of_mem _ hline)

end Counted

theorem text_counted (cs : List Char) : (counted cs).text = cs := by
  fun_induction counted cs with
  | case1 => rfl
  | case2 cs ih => rw [Counted.text_broken, ih]; rfl
  | case3 cs ih => rw [Counted.text_broken, ih]; rfl
  | case4 cs _ ih => rw [Counted.text_broken, ih]; rfl
  | case5 cs _ ih => rw [Counted.text_broken, ih]; rfl
  | case6 c cs _ _ _ _ ih => rw [Counted.text_begun, ih]

theorem plain_counted (cs : List Char) : (counted cs).Plain := by
  fun_induction counted cs with
  | case1 => simp [Counted.Plain]
  | case2 cs ih => exact ih.broken _
  | case3 cs ih => exact ih.broken _
  | case4 cs _ ih => exact ih.broken _
  | case5 cs _ ih => exact ih.broken _
  | case6 c cs h₁ h₂ h₃ h₄ ih => exact ih.begun (by simpa using h₄) (by simpa using h₃)

/-! ## The count of the lexer -/

section Lexer

open Lua.Source

/-- The bytes of a character that breaks no line break none. -/
theorem isNewline_of_mem_utf8EncodeChar {c : Char} (hfeed : c ≠ '\n') (hret : c ≠ '\r') :
    ∀ b ∈ String.utf8EncodeChar c, isNewline b = false := by
  have hten : c.toNat ≠ 10 := fun h => hfeed (Char.ext (UInt32.toNat_inj.mp h))
  have hthirteen : c.toNat ≠ 13 := fun h => hret (Char.ext (UInt32.toNat_inj.mp h))
  intro b hb
  have hbyte := Text.toNat_of_mem_utf8EncodeChar hb
  have hb10 : b ≠ 10 := by
    rintro rfl
    simp at hbyte
    omega
  have hb13 : b ≠ 13 := by
    rintro rfl
    simp at hbyte
    omega
  simp [isNewline, hb10, hb13]

/-- A break of one character is not taken for one of two. -/
theorem skipNewline_flatMap {a : UInt8} {cs : List Char}
    (hnext : ∀ c ∈ cs.head?, c = '\n' ∨ c = '\r' → String.utf8EncodeChar c = [a]) :
    skipNewline (a :: cs.flatMap String.utf8EncodeChar) = cs.flatMap String.utf8EncodeChar := by
  cases cs with
  | nil => rfl
  | cons c cs =>
      rw [List.flatMap_cons]
      by_cases hc : c = '\n' ∨ c = '\r'
      · rw [hnext c rfl hc]
        simp [skipNewline]
      · obtain ⟨hfeed, hret⟩ := not_or.mp hc
        obtain ⟨b, bs, hbytes⟩ := List.exists_cons_of_ne_nil (String.utf8EncodeChar_ne_nil (c := c))
        have hb := isNewline_of_mem_utf8EncodeChar hfeed hret b (by simp [hbytes])
        simp [hbytes, skipNewline, hb]

theorem breaks_append {bs : List UInt8} (h : ∀ b ∈ bs, isNewline b = false) (rest : List UInt8) :
    breaks (bs ++ rest) = breaks rest := by
  have hpassed := (Within.passed ⟨List.prefix_append bs rest, h⟩ 0).line
  simpa using hpassed.symm

theorem Counted.length_lines_begun (c : Char) (s : Counted) :
    (s.begun c).lines.length = s.lines.length := by
  rcases s with ⟨_ | ⟨⟨l, b⟩, ls⟩, last⟩ <;> rfl

theorem breaks_flatMap (cs : List Char) :
    breaks (cs.flatMap String.utf8EncodeChar) = (counted cs).lines.length := by
  have hfeed : String.utf8EncodeChar '\n' = [10] := by decide
  have hret : String.utf8EncodeChar '\r' = [13] := by decide
  fun_induction counted cs with
  | case1 => simp [breaks]
  | case2 cs ih =>
      rw [List.flatMap_cons, List.flatMap_cons, hfeed, hret]
      exact (breaks_of_newline (by decide)).trans (congrArg (· + 1) ih)
  | case3 cs ih =>
      rw [List.flatMap_cons, List.flatMap_cons, hfeed, hret]
      exact (breaks_of_newline (by decide)).trans (congrArg (· + 1) ih)
  | case4 cs hnext ih =>
      have hskip : skipNewline (13 :: cs.flatMap String.utf8EncodeChar) =
          cs.flatMap String.utf8EncodeChar := by
        refine skipNewline_flatMap fun c hc hbreak => ?_
        obtain ⟨more, rfl⟩ := List.head?_eq_some_iff.mp hc
        rcases hbreak with rfl | rfl
        · exact absurd rfl (hnext more)
        · exact hret
      rw [List.flatMap_cons, hret, List.singleton_append, breaks_of_newline (by decide), hskip, ih]
      rfl
  | case5 cs hnext ih =>
      have hskip : skipNewline (10 :: cs.flatMap String.utf8EncodeChar) =
          cs.flatMap String.utf8EncodeChar := by
        refine skipNewline_flatMap fun c hc hbreak => ?_
        obtain ⟨more, rfl⟩ := List.head?_eq_some_iff.mp hc
        rcases hbreak with rfl | rfl
        · exact hfeed
        · exact absurd rfl (hnext more)
      rw [List.flatMap_cons, hfeed, List.singleton_append, breaks_of_newline (by decide), hskip, ih]
      rfl
  | case6 c cs _ _ hr hf ih =>
      have hplain := isNewline_of_mem_utf8EncodeChar (c := c) (by simpa using hf)
        (by simpa using hr)
      rw [List.flatMap_cons, breaks_append hplain, ih, Counted.length_lines_begun]

/-- The lexer comes to as many breaks of lines as are counted. -/
theorem breaks_toBytes (source : String) :
    breaks (Text.toBytes source) = (counted source.toList).lines.length := by
  rw [Text.toBytes_eq_flatMap, breaks_flatMap]

/-- Wherever the lexer has come to in a source, the line that it knows is the one behind the lines
that were counted before that place. -/
theorem line_of_lexer {source after : String} {s : Lua.Source}
    (hread : Reads ⟨Text.toBytes source, 1⟩ s) (hafter : s.rest = Text.toBytes after) :
    s.line + (counted after.toList).lines.length = (counted source.toList).lines.length + 1 := by
  have hline := line_of_reads hread
  rw [hafter, breaks_toBytes, breaks_toBytes] at hline
  rw [hline, Nat.add_comm]

end Lexer

/-! ## Lines by line feeds -/

/-- The lines that are shown, without the returns at their ends. -/
def shownLines (cs : List Char) : List (List Char) :=
  (linePieces cs).map (List.rdropWhile (· = '\r'))

section Shown

variable {l rs : List Char}

theorem shownLines_nil : shownLines [] = [] := rfl

theorem shownLines_of_feedless (hl : '\n' ∉ l) (hne : l ≠ []) :
    shownLines l = [l.rdropWhile (· = '\r')] := by
  simp [shownLines, linePieces, linesOf_of_feedless hl, hne]

theorem shownLines_append_feed (hl : '\n' ∉ l) (rest : List Char) :
    shownLines (l ++ '\n' :: rest) = l.rdropWhile (· = '\r') :: shownLines rest := by
  have hne : linesOf rest ≠ [] := List.ne_nil_of_length_pos (by simp [length_linesOf])
  simp only [shownLines, linePieces, linesOf_append_feed hl, List.getLast?_cons_of_ne_nil hne,
    List.dropLast_cons_of_ne_nil hne]
  split <;> rfl

theorem length_shownLines_le (cs : List Char) : (shownLines cs).length ≤ cs.count '\n' + 1 := by
  rw [← length_linesOf, shownLines, List.length_map, linePieces]
  split
  · simp
  · exact Nat.le_refl _

/-- Behind a line feed at the end there is no line any more. -/
theorem length_shownLines_concat_feed (cs : List Char) :
    (shownLines (cs ++ ['\n'])).length = (cs ++ ['\n']).count '\n' := by
  induction h : cs.length using Nat.strong_induction_on generalizing cs with
  | _ length ih =>
      rcases feedless_or_append_feed cs with hcs | ⟨piece, rest, rfl, hpiece⟩
      · rw [shownLines_append_feed hcs, shownLines_nil]
        simp [List.count_eq_zero_of_not_mem hcs]
      · have hrest := ih rest.length (by simp at h; omega) rest rfl
        rw [List.append_assoc, List.cons_append, shownLines_append_feed hpiece]
        simp [hrest, List.count_eq_zero_of_not_mem hpiece]

/-- Returns behind a line are cut off, and with them those before it if the line is empty. -/
theorem rdropWhile_rets (behind : List Char) (hrs : ∀ c ∈ rs, c = '\r') (hl : '\r' ∉ l)
    (hbehind : ∀ c ∈ behind, c = '\r') :
    (rs ++ l ++ behind).rdropWhile (· = '\r') = if l = [] then [] else rs ++ l := by
  have hback : ∀ c ∈ behind.reverse, decide (c = '\r') = true := by simpa using hbehind
  rw [List.rdropWhile, List.reverse_append, List.dropWhile_append_of_pos hback,
    ← List.rdropWhile]
  split
  · next hnil =>
      subst hnil
      simpa [List.rdropWhile_eq_nil_iff] using hrs
  · next hne =>
      rw [List.rdropWhile_eq_self_iff]
      intro hne' hlast
      rw [List.getLast_append_of_ne_nil hne' hne] at hlast
      rw [decide_eq_true_eq] at hlast
      exact hl (hlast ▸ List.getLast_mem hne)

end Shown

/-! ## Both counts compared -/

/-- What a break leaves behind its line feed. -/
def LineBreak.left : LineBreak → List Char
  | .feedRet => ['\r']
  | _ => []

section Compared

variable {l rs last : List Char} {b : LineBreak} {ls : List (List Char × LineBreak)}

theorem Counted.text_cons :
    (Counted.mk ((l, b) :: ls) last).text = l ++ b.text ++ (Counted.mk ls last).text := by
  simp [Counted.text]

theorem Counted.Plain.head (h : (Counted.mk ((l, b) :: ls) last).Plain) :
    '\n' ∉ l ∧ '\r' ∉ l :=
  h.1 (l, b) List.mem_cons_self

theorem Counted.Plain.tail (h : (Counted.mk ((l, b) :: ls) last).Plain) :
    (Counted.mk ls last).Plain :=
  ⟨fun line hline => h.1 line (List.mem_cons_of_mem _ hline), h.2⟩

theorem not_mem_of_rets {c : Char} (hrs : ∀ c ∈ rs, c = '\r') (hc : c ≠ '\r') : c ∉ rs :=
  fun hmem => hc (hrs c hmem)

/-- A line that a line feed is part of the break of is shown as it was counted, with the returns in
front of it that are left from the break before it. -/
theorem shownLines_cons (hrs : ∀ c ∈ rs, c = '\r')
    (hplain : (Counted.mk ((l, b) :: ls) last).Plain) (hb : b ≠ .ret) :
    shownLines (rs ++ (Counted.mk ((l, b) :: ls) last).text) =
      (if l = [] then [] else rs ++ l) :: shownLines (b.left ++ (Counted.mk ls last).text) := by
  obtain ⟨hfeed, hret⟩ := hplain.head
  have hrsfeed : '\n' ∉ rs := not_mem_of_rets hrs (by decide)
  have hline : '\n' ∉ rs ++ l := by simp [hrsfeed, hfeed]
  have hcut : ∀ behind, (∀ c ∈ behind, c = '\r') →
      (rs ++ l ++ behind).rdropWhile (· = '\r') = if l = [] then [] else rs ++ l :=
    fun behind => rdropWhile_rets behind hrs hret
  rw [Counted.text_cons]
  cases b with
  | ret => exact absurd rfl hb
  | feed =>
      have hshown := shownLines_append_feed hline (Counted.mk ls last).text
      rw [← hcut [] (by simp)]
      simpa [LineBreak.text, LineBreak.left] using hshown
  | feedRet =>
      have hshown := shownLines_append_feed hline ('\r' :: (Counted.mk ls last).text)
      rw [← hcut [] (by simp)]
      simpa [LineBreak.text, LineBreak.left] using hshown
  | retFeed =>
      have hshown := shownLines_append_feed (l := rs ++ l ++ ['\r'])
        (by simpa using hline) (Counted.mk ls last).text
      rw [hcut ['\r'] (by simp)] at hshown
      simpa [LineBreak.text, LineBreak.left] using hshown

/-- The lines that were counted are shown when `rs` stands before the source. -/
def Agrees (rs : List Char) (s : Counted) : Prop :=
  ∀ (n : Nat) (text : List Char), s.texts[n]? = some text →
    (shownLines (rs ++ s.text))[n]? = some text

theorem agrees_nil_iff (hrs : ∀ c ∈ rs, c = '\r') (hplain : (Counted.mk [] last).Plain) :
    Agrees rs ⟨[], last⟩ ↔ (rs ≠ [] → last = []) := by
  obtain ⟨-, hfeed, hret⟩ := hplain
  by_cases hlast : last = []
  · simp [Agrees, Counted.texts, hlast]
  · have hcut := rdropWhile_rets [] hrs hret (by simp)
    have hshown : shownLines (rs ++ last) = [rs ++ last] := by
      rw [shownLines_of_feedless (by simp [not_mem_of_rets hrs, hfeed]) (by simp [hlast])]
      simpa [hlast] using hcut
    constructor
    · intro hagrees
      have hfirst := hagrees 0 last (by simp [Counted.texts, hlast])
      simpa [Counted.text, hshown, hlast] using hfirst
    · intro hnil n text htext
      have hrsnil : rs = [] := by
        by_contra hne
        exact hlast (hnil hne)
      rw [hrsnil, List.nil_append] at hshown
      simpa [Counted.text, Counted.texts, hshown, hlast, hrsnil] using htext

theorem agrees_cons_iff (hrs : ∀ c ∈ rs, c = '\r')
    (hplain : (Counted.mk ((l, b) :: ls) last).Plain) (hb : b ≠ .ret) :
    Agrees rs ⟨(l, b) :: ls, last⟩ ↔ (rs ≠ [] → l = []) ∧ Agrees b.left ⟨ls, last⟩ := by
  have hshown := shownLines_cons hrs hplain hb
  have htexts : (Counted.mk ((l, b) :: ls) last).texts = l :: (Counted.mk ls last).texts := by
    simp [Counted.texts]
  unfold Agrees
  rw [hshown, htexts]
  constructor
  · intro hagrees
    refine ⟨fun hne => ?_, fun n text => hagrees (n + 1) text⟩
    have hfirst := hagrees 0 l rfl
    by_contra hl
    simp [hl, hne] at hfirst
  · rintro ⟨hfirst, hrest⟩ n text
    cases n with
    | zero =>
        intro htext
        cases htext
        by_cases hl : l = []
        · simp [hl]
        · have hrsnil : rs = [] := by
            by_contra hne
            exact hl (hfirst hne)
          simp [hl, hrsnil]
    | succ n => exact hrest n text

/-- A return that ends the source is cut off. -/
theorem agrees_ret (hrs : ∀ c ∈ rs, c = '\r') (hplain : (Counted.mk [(l, .ret)] []).Plain)
    (hfirst : rs ≠ [] → l = []) : Agrees rs ⟨[(l, .ret)], []⟩ := by
  obtain ⟨hfeed, hret⟩ := hplain.head
  have hcut := rdropWhile_rets ['\r'] hrs hret (by simp)
  have hline : '\n' ∉ rs ++ l ++ ['\r'] := by
    simp [not_mem_of_rets hrs, hfeed]
  have hshown := shownLines_of_feedless hline (by simp)
  have hl : (if l = [] then [] else rs ++ l) = l := by
    by_cases hl : l = []
    · simp [hl]
    · have hrsnil : rs = [] := by
        by_contra hne
        exact hl (hfirst hne)
      simp [hl, hrsnil]
  rw [hcut, hl, List.append_assoc] at hshown
  intro n text htext
  simpa [Counted.text, Counted.texts, LineBreak.text, hshown] using htext

theorem LineBreak.eq_ret_of_left (b : LineBreak) : ∀ c ∈ b.left, c = '\r' := by
  cases b <;> simp [LineBreak.left]

/-- All lines of a regular source are shown as they were counted. -/
theorem agrees_of_regular (hrs : ∀ c ∈ rs, c = '\r') (hplain : (Counted.mk ls last).Plain)
    (hfirst : rs ≠ [] → (Counted.mk ls last).first = []) (hregular : RegularLines ls last) :
    Agrees rs ⟨ls, last⟩ := by
  -- From line to line; only behind a line feed with a return there is something left.
  induction ls generalizing rs with
  | nil => exact (agrees_nil_iff hrs hplain).mpr hfirst
  | cons line ls ih =>
      obtain ⟨l, b⟩ := line
      cases b with
      | ret =>
          obtain ⟨rfl, rfl⟩ := hregular
          exact agrees_ret hrs hplain hfirst
      | feed =>
          exact (agrees_cons_iff hrs hplain (by decide)).mpr
            ⟨hfirst, ih (LineBreak.eq_ret_of_left _) hplain.tail (fun hne => absurd rfl hne)
              hregular⟩
      | retFeed =>
          exact (agrees_cons_iff hrs hplain (by decide)).mpr
            ⟨hfirst, ih (LineBreak.eq_ret_of_left _) hplain.tail (fun hne => absurd rfl hne)
              hregular⟩
      | feedRet =>
          exact (agrees_cons_iff hrs hplain (by decide)).mpr
            ⟨hfirst, ih (LineBreak.eq_ret_of_left _) hplain.tail (fun _ => hregular.1) hregular.2⟩

/-- Without lone returns only regular sources are shown as they were counted. -/
theorem regular_of_agrees (hrs : ∀ c ∈ rs, c = '\r') (hplain : (Counted.mk ls last).Plain)
    (hnone : ∀ line ∈ ls, line.2 ≠ .ret) (hagrees : Agrees rs ⟨ls, last⟩) :
    (rs ≠ [] → (Counted.mk ls last).first = []) ∧ RegularLines ls last := by
  induction ls generalizing rs with
  | nil => exact ⟨(agrees_nil_iff hrs hplain).mp hagrees, trivial⟩
  | cons line ls ih =>
      obtain ⟨l, b⟩ := line
      have hb : b ≠ .ret := hnone (l, b) List.mem_cons_self
      obtain ⟨hfirst, hrest⟩ := (agrees_cons_iff hrs hplain hb).mp hagrees
      obtain ⟨hnext, hregular⟩ := ih (LineBreak.eq_ret_of_left b) hplain.tail
        (fun line hline => hnone line (List.mem_cons_of_mem _ hline)) hrest
      refine ⟨hfirst, ?_⟩
      cases b with
      | ret => exact absurd rfl hb
      | feed => exact hregular
      | retFeed => exact hregular
      | feedRet => exact ⟨hnext (by simp [LineBreak.left]), hregular⟩

end Compared

/-! ## Diagnostics -/

theorem Counted.count_text (s : Counted) (hplain : s.Plain) :
    s.text.count '\n' + s.lines.countP (·.2 = .ret) = s.lines.length := by
  rcases s with ⟨ls, last⟩
  induction ls with
  | nil => simpa [Counted.text] using List.count_eq_zero_of_not_mem hplain.2.1
  | cons line ls ih =>
      obtain ⟨l, b⟩ := line
      have hl : l.count '\n' = 0 := List.count_eq_zero_of_not_mem hplain.head.1
      have hrest := ih hplain.tail
      rw [Counted.text_cons]
      cases b <;> simp [LineBreak.text, hl] at hrest ⊢ <;> omega

/-- Each line that was counted being shown, there are as many lines as line feeds say. -/
theorem no_ret_of_agrees {s : Counted} (hplain : s.Plain) (hend : s.text.getLast? ≠ some '\r')
    (hagrees : Agrees [] s) : ∀ line ∈ s.lines, line.2 ≠ .ret := by
  have hle : s.texts.length ≤ (shownLines s.text).length := by
    by_contra hlt
    have hlt' : (shownLines s.text).length < s.texts.length := by omega
    have hshown := hagrees _ _ (List.getElem?_eq_getElem hlt')
    simp at hshown
  have hcount := s.count_text hplain
  have hnone : s.lines.countP (·.2 = .ret) = 0 := by
    rcases s with ⟨ls, last⟩
    by_cases hlast : last = []
    · rcases List.eq_nil_or_concat' ls with rfl | ⟨init, ⟨l, b⟩, rfl⟩
      · rfl
      · -- The source ends in a line feed, behind which no line is shown.
        have htext : (Counted.mk (init ++ [(l, b)]) last).text =
            (Counted.mk init l).text ++ b.text := by
          simp [Counted.text, hlast]
        obtain ⟨before, hbefore⟩ : ∃ before,
            (Counted.mk (init ++ [(l, b)]) last).text = before ++ ['\n'] := by
          rw [htext] at hend ⊢
          cases b with
          | ret => simp [LineBreak.text] at hend
          | feedRet => simp [LineBreak.text] at hend
          | feed => exact ⟨_, rfl⟩
          | retFeed => exact ⟨(Counted.mk init l).text ++ ['\r'], by simp [LineBreak.text]⟩
        have hshown := length_shownLines_concat_feed before
        rw [← hbefore] at hshown
        have hlength : (Counted.mk (init ++ [(l, b)]) last).texts.length =
            (init ++ [(l, b)]).length := by
          simp [Counted.texts, hlast]
        dsimp only at hcount ⊢
        omega
    · have hshown := length_shownLines_le (Counted.mk ls last).text
      have hlength : (Counted.mk ls last).texts.length = ls.length + 1 := by
        simp [Counted.texts, hlast]
      dsimp only at hcount ⊢
      omega
  simpa [List.countP_eq_zero] using hnone

theorem Counted.length_texts_le (s : Counted) : s.texts.length ≤ s.text.length := by
  rcases s with ⟨ls, last⟩
  induction ls with
  | nil =>
      by_cases hlast : last = []
      · simp [Counted.texts, hlast]
      · simp [Counted.texts, Counted.text, hlast, List.length_pos_iff.mpr hlast, Nat.succ_le_iff]
  | cons line ls ih =>
      obtain ⟨l, b⟩ := line
      have hb : 0 < b.text.length := by cases b <;> decide
      rw [Counted.text_cons]
      simp [Counted.texts] at ih ⊢
      omega

/-- Whatever is reported at a line of the source that was run, the line is shown as the lexer counts
it. -/
def ShowsCounted (source : String) : Prop :=
  ∀ (kind : FailureKind) (e : EngineError) (origin : String) (n : Nat) (text : String),
    (ofError kind e origin source).origin = some origin →
    (ofError kind e origin source).line = some n →
    CountedLine source.toList n text.toList →
    (ofError kind e origin source).sourceLine = some text

variable {source : String}

/-- What is reported at a line of the source that was run shows that line, as it is shown. -/
theorem sourceLine_ofError {kind : FailureKind} {e : EngineError} {origin : String} {n : Nat}
    (horigin : (ofError kind e origin source).origin = some origin)
    (hline : (ofError kind e origin source).line = some n) :
    (ofError kind e origin source).sourceLine =
      ((shownLines source.toList)[n - 1]?).map String.ofList := by
  rcases ofError_fields kind e origin source with ⟨hnone, -⟩ | ⟨o, n', ho, hn, hshown, -⟩
  · rw [hnone] at horigin
    cases horigin
  · rw [ho] at horigin
    rw [hn] at hline
    cases horigin
    cases hline
    rw [hshown, if_pos rfl]
    rfl

theorem showsCounted_of_agrees (hagrees : Agrees [] (counted source.toList)) :
    ShowsCounted source := by
  intro kind e origin n text horigin hline hcounted
  have hshown := hagrees (n - 1) text.toList hcounted.2
  rw [List.nil_append, text_counted] at hshown
  rw [sourceLine_ofError horigin hline, hshown]
  simp

/-- Each line of a source that a machine can hold can be reported. -/
theorem agrees_of_showsCounted (hsize : source.utf8ByteSize < UInt64.size)
    (hshows : ShowsCounted source) : Agrees [] (counted source.toList) := by
  intro n text htext
  have hn : n + 1 < UInt64.size := by
    have hlt : n < (counted source.toList).texts.length := (List.getElem?_eq_some_iff.mp htext).1
    have hle := (counted source.toList).length_texts_le
    rw [text_counted] at hle
    have hbytes := Text.length_le_utf8ByteSize source
    omega
  have hplace : (ofError .compile (.compile (placed "" (n + 1) "") false) "" source).PointsTo
      "" (n + 1) "" none :=
    pointsTo_of_flatten (by decide) (by decide) hn rfl .compile "" source
  have hshown := hshows _ _ _ _ (String.ofList text) hplace.origin hplace.line
    ⟨by omega, by simpa using htext⟩
  rw [sourceLine_ofError hplace.origin hplace.line, Option.map_eq_some_iff] at hshown
  obtain ⟨shown, hget, hshown⟩ := hshown
  rw [List.nil_append, text_counted]
  simpa [String.ofList_injective hshown] using hget

/-- Every line of a regular source is shown as the lexer counts it, and of the sources that do not
end in a return only the regular ones are shown like this. -/
theorem ofError_counted_lines (source : String) :
    (Regular source.toList → ShowsCounted source) ∧
    (source.utf8ByteSize < UInt64.size → source.toList.getLast? ≠ some '\r' →
      ShowsCounted source → Regular source.toList) := by
  have hplain := plain_counted source.toList
  refine ⟨fun hregular => showsCounted_of_agrees ?_, fun hsize hend hshows => ?_⟩
  · exact agrees_of_regular (by simp) hplain (fun hne => absurd rfl hne) hregular
  · have hagrees := agrees_of_showsCounted hsize hshows
    rw [← text_counted source.toList] at hend
    exact (regular_of_agrees (by simp) hplain (no_ret_of_agrees hplain hend hagrees) hagrees).2

/-- A source with breaks of three kinds is shown as counted; one with a return alone is not. -/
theorem ofError_counted_lines_mixed :
    let mixed := "x = 1\r\n  y = 2\n\r\nz = 3\n"
    let alone := "x = 1\r  y = 2\n"
    Regular mixed.toList ∧ mixed.utf8ByteSize < UInt64.size ∧
      mixed.toList.getLast? ≠ some '\r' ∧ ShowsCounted mixed ∧
      ¬ Regular alone.toList ∧ ¬ ShowsCounted alone := by
  intro mixed alone
  have hregular : Regular mixed.toList := by decide
  have hsize : mixed.utf8ByteSize < UInt64.size := by decide
  have hend : mixed.toList.getLast? ≠ some '\r' := by decide
  have hshows : ShowsCounted mixed := (ofError_counted_lines mixed).1 hregular
  have halone : ¬ Regular alone.toList := by decide
  refine ⟨(ofError_counted_lines mixed).2 hsize hend hshows, hsize, hend, hshows, halone, ?_⟩
  exact fun h => halone ((ofError_counted_lines alone).2 (by decide) (by decide) h)

/-- A return alone is no break of a line where the source line is looked up: for the third line,
which does not compile, the one behind it is shown. -/
theorem ofError_lone_return :
    let source := "x = 1\r\n\r  y = = 2\nz = 3\n"
    let e : EngineError := .compile "main.lua:3: unexpected symbol near '='" false
    CountedLine source.toList 3 "  y = = 2".toList ∧
      ofError .compile e "main.lua" source = ⟨.compile, "unexpected symbol near '='",
        some "main.lua", some 3, some "z = 3", some (0, 5), none⟩ ∧
      ¬ ShowsCounted source := by
  intro source e
  have hcounted : CountedLine source.toList 3 "  y = = 2".toList := ⟨by decide, by decide⟩
  have hd : ofError .compile e "main.lua" source = ⟨.compile, "unexpected symbol near '='",
      some "main.lua", some 3, some "z = 3", some (0, 5), none⟩ := by decide
  refine ⟨hcounted, hd, fun hshows => ?_⟩
  have hline := hshows .compile e "main.lua" 3 "  y = = 2" (by rw [hd]) (by rw [hd]) hcounted
  rw [hd] at hline
  exact absurd hline (by decide)

end LuaShell.Diagnostic
