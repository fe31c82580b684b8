import LuaShell.Proofs.Script.SourceLine

/-!
# Well-formed diagnostics

The fields of a diagnostic that is built from a failure of the engine fit each other, whatever the
failure is (`ofError_wellFormed`): there is a place or none, a source line only for a place in the
source that was run, and marks under that line exactly if it holds more than blanks.  The marks
then begin and end with the text of the line (`Underlines`), which is found by two scans that do
not know of each other, one from each end; a line has no second stretch of that kind
(`span?_eq_some_iff`).
-/

namespace LuaShell

namespace Text

variable {cs : List Char} {start stop : Nat} {c : Char}

/-! ## The blanks at both ends of a text -/

theorem trimStart_eq_drop (cs : List Char) :
    trimStart cs = cs.drop (cs.takeWhile isBlank).length := by
  induction cs with
  | nil => rfl
  | cons c cs ih =>
      cases hc : isBlank c with
      | false => simp [trimStart, hc]
      | true => simpa [trimStart, hc] using ih

/-- Blanks up to a character that is none are all the blanks that a text begins with. -/
theorem length_takeWhile_isBlank (hbefore : ∀ c ∈ cs.take start, isBlank c = true)
    (hfirst : cs[start]? = some c) (hc : isBlank c = false) :
    (cs.takeWhile isBlank).length = start := by
  obtain ⟨hlt, rfl⟩ := List.getElem?_eq_some_iff.mp hfirst
  rw [← List.take_append_drop start cs, List.takeWhile_append_of_pos hbefore,
    List.drop_eq_getElem_cons hlt, List.takeWhile_cons_of_neg (by simp [hc])]
  simp [Nat.le_of_lt hlt]

/-- Blanks from a character on that is none are all the blanks that a text ends with. -/
theorem trimEnd_eq_take (hbehind : ∀ c ∈ cs.drop stop, isBlank c = true) (hstop : 0 < stop)
    (hlast : cs[stop - 1]? = some c) (hc : isBlank c = false) : trimEnd cs = cs.take stop := by
  obtain ⟨init, rfl⟩ : ∃ init, stop = init + 1 := ⟨stop - 1, by omega⟩
  rw [Nat.add_sub_cancel] at hlast
  obtain ⟨hlt, rfl⟩ := List.getElem?_eq_some_iff.mp hlast
  have hblank : ∀ c ∈ (cs.drop (init + 1)).reverse, isBlank c = true := by simpa using hbehind
  conv_lhs => rw [← List.take_append_drop (init + 1) cs]
  rw [trimEnd, List.reverse_append, List.dropWhile_append_of_pos hblank,
    ← List.take_append_getElem hlt]
  simp [-List.take_append_getElem, hc]

/-- What is cut off at the end are blanks, and what is left ends with none. -/
theorem trimEnd_spec (cs : List Char) :
    trimEnd cs <+: cs ∧ (∀ c ∈ cs.drop (trimEnd cs).length, isBlank c = true) ∧
      ∀ c, (trimEnd cs).getLast? = some c → isBlank c = false := by
  have hparts : trimEnd cs ++ cs.rtakeWhile isBlank = cs := List.rdropWhile_append_rtakeWhile
  refine ⟨⟨_, hparts⟩, ?_, fun c hlast => ?_⟩
  · have hdrop : cs.drop (trimEnd cs).length = cs.rtakeWhile isBlank :=
      (congrArg (List.drop (trimEnd cs).length) hparts).symm.trans List.drop_left
    rw [hdrop]
    exact fun c => List.mem_rtakeWhile_imp
  · obtain ⟨hne, rfl⟩ := List.mem_getLast?_eq_getLast hlast
    exact Bool.eq_false_of_not_eq_true (List.rdropWhile_last_not isBlank cs hne)

end Text

namespace Diagnostic

/-- A stretch of a text begins and ends with characters that are no blanks, and all around it there
are blanks only. -/
structure Underlines (text : List Char) (start stop : Nat) : Prop where
  lt : start < stop
  le : stop ≤ text.length
  before : ∀ c ∈ text.take start, Text.isBlank c = true
  behind : ∀ c ∈ text.drop stop, Text.isBlank c = true
  first : ∃ c, text[start]? = some c ∧ Text.isBlank c = false
  last : ∃ c, text[stop - 1]? = some c ∧ Text.isBlank c = false

section Span

variable {cs : List Char} {start stop : Nat}

theorem Underlines.length_takeWhile (h : Underlines cs start stop) :
    (cs.takeWhile Text.isBlank).length = start := by
  obtain ⟨c, hfirst, hc⟩ := h.first
  exact Text.length_takeWhile_isBlank h.before hfirst hc

theorem Underlines.trimEnd (h : Underlines cs start stop) : Text.trimEnd cs = cs.take stop := by
  obtain ⟨c, hlast, hc⟩ := h.last
  exact Text.trimEnd_eq_take h.behind (Nat.zero_lt_of_lt h.lt) hlast hc

/-- The stretch is the text without the blanks at both ends. -/
theorem Underlines.trim (h : Underlines cs start stop) :
    Text.trim cs = (cs.drop start).take (stop - start) := by
  have hlt := h.lt
  obtain ⟨c, hlast, hc⟩ := h.last
  -- Behind the blanks at the start the last character is the same.
  rw [Text.trim, Text.trimStart_eq_drop, h.length_takeWhile]
  refine Text.trimEnd_eq_take ?_ (by omega) (c := c) ?_ hc
  · rw [List.drop_drop, Nat.add_sub_cancel' (Nat.le_of_lt hlt)]
    exact h.behind
  · rw [List.getElem?_drop, ← hlast]
    congr 1
    omega

/-- The scans from both ends find the stretch if they do not meet. -/
theorem underlines_of_lt
    (hlt : (cs.takeWhile Text.isBlank).length < (Text.trimEnd cs).length) :
    Underlines cs (cs.takeWhile Text.isBlank).length (Text.trimEnd cs).length := by
  obtain ⟨hbegins, hbehind, hlast⟩ := Text.trimEnd_spec cs
  have hstart : (cs.takeWhile Text.isBlank).length < cs.length :=
    Nat.lt_of_lt_of_le hlt hbegins.length_le
  refine ⟨hlt, hbegins.length_le, ?_, hbehind, ⟨_, List.getElem?_eq_getElem hstart, ?_⟩, ?_⟩
  · rw [← List.prefix_iff_eq_take.mp (List.takeWhile_prefix Text.isBlank)]
    exact fun c => List.mem_takeWhile_imp
  · have hhead := List.head?_dropWhile_not Text.isBlank cs
    rw [← Text.trimStart, Text.trimStart_eq_drop, List.head?_drop,
      List.getElem?_eq_getElem hstart] at hhead
    exact hhead
  · have hstop : (Text.trimEnd cs).length - 1 < (Text.trimEnd cs).length := by omega
    refine ⟨(Text.trimEnd cs)[(Text.trimEnd cs).length - 1],
      List.prefix_iff_getElem?.mp hbegins _ hstop, hlast _ ?_⟩
    rw [List.getLast?_eq_getElem?, List.getElem?_eq_getElem hstop]

theorem span?_eq_some_iff {line : String} :
    span? line = some (start, stop) ↔ Underlines line.toList start stop := by
  simp only [span?]
  constructor
  · intro hspan
    split at hspan
    · next hlt =>
        cases hspan
        exact underlines_of_lt hlt
    · cases hspan
  · intro h
    have hlength : (Text.trimEnd line.toList).length = stop := by
      rw [h.trimEnd, List.length_take, Nat.min_eq_left h.le]
    rw [h.length_takeWhile, hlength, if_pos h.lt]

example : span? "\u3000é = 1\t" = some (1, 6) := by decide

/-- Only under a blank line there are no marks. -/
theorem span?_eq_none_iff {line : String} :
    span? line = none ↔ ∀ c ∈ line.toList, Text.isBlank c = true := by
  constructor
  · intro hnone
    have hle : (Text.trimEnd line.toList).length ≤
        (line.toList.takeWhile Text.isBlank).length := by
      simpa [span?] using hnone
    obtain ⟨-, hbehind, -⟩ := Text.trimEnd_spec line.toList
    rw [← List.take_append_drop (Text.trimEnd line.toList).length line.toList]
    intro c hc
    rcases List.mem_append.mp hc with hbefore | hafter
    · refine List.mem_takeWhile_imp (l := line.toList) ?_
      rw [List.prefix_iff_eq_take.mp (List.takeWhile_prefix Text.isBlank)]
      exact List.take_subset_take_left _ hle hbefore
    · exact hbehind c hafter
  · intro hblank
    have hnil : Text.trimEnd line.toList = [] := List.rdropWhile_eq_nil_iff.mpr hblank
    simp [span?, hnil]

end Span

/-! ## Diagnostics -/

/-- The fields of a diagnostic fit each other and the source that was run under a name: a place is
named or not, the source line is that of the place if the place is in the source, and the span is
that of the text of this line. -/
structure WellFormed (d : Diagnostic) (origin source : String) : Prop where
  place : d.origin.isSome = d.line.isSome
  sourceLine : ∀ text, d.sourceLine = some text ↔ d.origin = some origin ∧
    ∃ n, d.line = some n ∧ IsLine source.toList (max 1 n) text.toList
  span : ∀ start stop, d.span = some (start, stop) ↔
    ∃ text, d.sourceLine = some text ∧ Underlines text.toList start stop
  unmarked : d.span = none ↔
    ∀ text, d.sourceLine = some text → ∀ c ∈ text.toList, Text.isBlank c = true

/-- A place gives a diagnostic with that place, and no place gives one without. -/
theorem ofError_fields (kind : FailureKind) (e : EngineError) (origin source : String) :
    let d := ofError kind e origin source
    (d.origin = none ∧ d.line = none ∧ d.sourceLine = none ∧ d.span = none) ∨
      ∃ o n, d.origin = some o ∧ d.line = some n ∧
        d.sourceLine = (if o = origin then sourceLine? source n else none) ∧
        d.span = d.sourceLine.bind span? := by
  intro d
  rcases hflatten : flatten e with ⟨raw, trace⟩
  rcases hmessage : ofMessage? raw with _ | ⟨o, n, rest⟩
  · rcases htrace : trace.bind ofTrace? with _ | ⟨o, n⟩
    · left
      simp [d, ofError, hflatten, hmessage, htrace]
    · right
      refine ⟨o, n, ?_⟩
      simp [d, ofError, hflatten, hmessage, htrace]
  · right
    refine ⟨o, n, ?_⟩
    simp [d, ofError, hflatten, hmessage]

theorem wellFormed_ofError (kind : FailureKind) (e : EngineError) (origin source : String) :
    (ofError kind e origin source).WellFormed origin source := by
  rcases ofError_fields kind e origin source with
    ⟨ho, hn, hline, hspan⟩ | ⟨o, n, ho, hn, hline, hspan⟩
  · exact ⟨by rw [ho, hn]; rfl, by simp [ho, hline], by simp [hline, hspan], by simp [hline, hspan]⟩
  · refine ⟨by rw [ho, hn]; rfl, fun text => ?_, fun start stop => ?_, ?_⟩
    · rw [hline, ho, hn]
      by_cases hown : o = origin
      · simp [hown, sourceLine?_eq_some_iff]
      · simp [hown]
    · rw [hspan, Option.bind_eq_some_iff]
      simp only [span?_eq_some_iff]
    · rw [hspan, Option.bind_eq_none_iff]
      simp only [span?_eq_none_iff]

/-- A failure of the engine gives a well-formed diagnostic, and that can always be shown: below its
heading stand the source line if there is one, directly below it the marks if there is a span,
and the call stack. The marks are spaces up to the text of the line and marks under that text. -/
theorem ofError_wellFormed (kind : FailureKind) (e : EngineError) (origin source : String) :
    let d := ofError kind e origin source
    d.WellFormed origin source ∧ ∀ palette : Palette,
      (d.span = none → d.render palette =
        s!"{palette.errorTag} {d.display}" :: d.sourceLine.toList ++ d.stackTrace.toList) ∧
      ∀ start stop, d.span = some (start, stop) → ∃ text, d.sourceLine = some text ∧
        start ≤ stop ∧
        d.render palette = s!"{palette.errorTag} {d.display}" :: text ::
          String.ofList (List.replicate start ' ' ++ List.replicate (stop - start) '^') ::
            d.stackTrace.toList ∧
        (text.toList.drop start).take (stop - start) = Text.trim text.toList := by
  intro d
  have hformed : d.WellFormed origin source := wellFormed_ofError kind e origin source
  refine ⟨hformed, fun palette => ⟨fun hnone => ?_, fun start stop hspan => ?_⟩⟩
  · cases hline : d.sourceLine <;> simp [render, hline, hnone]
  · obtain ⟨text, hline, hunder⟩ := (hformed.span start stop).mp hspan
    refine ⟨text, hline, Nat.le_of_lt hunder.lt, ?_, hunder.trim.symm⟩
    simp [render, underline, hline, hspan]

end Diagnostic

end LuaShell
