import LuaShell.Script.Diagnostic
import Mathlib

/-!
# Lines of a source

A diagnostic shows the line of a source to which a failure points.  `sourceLine?` reads that line
off the list of all lines; here a line is said to be what stands in the source between line feeds
(`Cut`, `IsLine`), and the two agree exactly (`sourceLine?_eq_some_iff`).  Returns at the end of a
line are no part of it, and behind the last line feed there is a line only if there is some text.
-/

namespace LuaShell.Diagnostic

/-- A text is cut around a piece of it that begins at the start or behind a line feed, holds none,
and ends at a line feed or at the end. -/
structure Cut (source before piece after : List Char) : Prop where
  whole : source = before ++ piece ++ after
  start : before = [] ∨ before.getLast? = some '\n'
  feedless : '\n' ∉ piece
  stop : after = [] ∨ after.head? = some '\n'

/-- The line of a number, counted from one: as many line feeds stand before it as there are lines
before it, and the returns at its end are left out.  At the end of the source nothing is no line. -/
def IsLine (source : List Char) (n : Nat) (text : List Char) : Prop :=
  ∃ before piece after, Cut source before piece after ∧ before.count '\n' + 1 = n ∧
    (after = [] → piece ≠ []) ∧ text = piece.rdropWhile (· = '\r')

section Pieces

variable {cs piece rest before after l : List Char} {n : Nat}

/-! ## Pieces between line feeds -/

theorem linesOf_of_feedless (hpiece : '\n' ∉ piece) : linesOf piece = [piece] := by
  induction piece with
  | nil => rfl
  | cons c cs ih =>
      obtain ⟨hc, hcs⟩ := not_or.mp (List.mem_cons.not.mp hpiece)
      rw [linesOf, if_neg (Ne.symm hc), ih hcs]

theorem linesOf_append_feed (hpiece : '\n' ∉ piece) (rest : List Char) :
    linesOf (piece ++ '\n' :: rest) = piece :: linesOf rest := by
  induction piece with
  | nil => simp [linesOf]
  | cons c cs ih =>
      obtain ⟨hc, hcs⟩ := not_or.mp (List.mem_cons.not.mp hpiece)
      rw [List.cons_append, linesOf, if_neg (Ne.symm hc), ih hcs]

/-- A text is one piece, or a piece, a line feed and a text. -/
theorem feedless_or_append_feed (cs : List Char) :
    '\n' ∉ cs ∨ ∃ piece rest, cs = piece ++ '\n' :: rest ∧ '\n' ∉ piece := by
  by_cases hfeed : '\n' ∈ cs
  · exact Or.inr (List.eq_append_cons_of_mem hfeed)
  · exact Or.inl hfeed

theorem append_feed_inj {rest' : List Char} (hpiece : '\n' ∉ piece) (hl : '\n' ∉ l)
    (heq : piece ++ '\n' :: rest = l ++ '\n' :: rest') : piece = l ∧ rest = rest' := by
  have hlines := congrArg linesOf heq
  rw [linesOf_append_feed hpiece, linesOf_append_feed hl] at hlines
  obtain ⟨rfl, -⟩ := List.cons.inj hlines
  exact ⟨rfl, (List.cons.inj (List.append_cancel_left heq)).2⟩

theorem length_linesOf (cs : List Char) : (linesOf cs).length = cs.count '\n' + 1 := by
  induction h : cs.length using Nat.strong_induction_on generalizing cs with
  | _ length ih =>
      rcases feedless_or_append_feed cs with hcs | ⟨piece, rest, rfl, hpiece⟩
      · simp [linesOf_of_feedless hcs, List.count_eq_zero_of_not_mem hcs]
      · have hrest := ih rest.length (by simp at h; omega) rest rfl
        simp [linesOf_append_feed hpiece, hrest, List.count_eq_zero_of_not_mem hpiece]

/-- A text without line feeds is cut in one way only. -/
theorem cut_of_feedless (hcs : '\n' ∉ cs) (hcut : Cut cs before piece after) :
    before = [] ∧ piece = cs ∧ after = [] := by
  obtain ⟨rfl, hstart, -, hstop⟩ := hcut
  simp only [List.mem_append, not_or] at hcs
  have hbefore : before = [] :=
    hstart.resolve_right fun hlast => hcs.1.1 (List.mem_of_getLast? hlast)
  have hafter : after = [] :=
    hstop.resolve_right fun hhead => hcs.2 (List.mem_of_head? hhead)
  simp [hbefore, hafter]

/-- Behind a first piece and its line feed a text is cut as if it began there. -/
theorem cut_append_feed_iff (hl : '\n' ∉ l) :
    Cut (l ++ '\n' :: rest) before piece after ↔
      (before = [] ∧ piece = l ∧ after = '\n' :: rest) ∨
        ∃ inner, before = l ++ '\n' :: inner ∧ Cut rest inner piece after := by
  constructor
  · rintro ⟨hwhole, hstart, hpiece, hstop⟩
    rcases feedless_or_append_feed before with hbefore | ⟨first, inner, rfl, hfirst⟩
    · have hnil : before = [] :=
        hstart.resolve_right fun hlast => hbefore (List.mem_of_getLast? hlast)
      subst hnil
      rcases hstop with rfl | hhead
      · simp only [List.nil_append, List.append_nil] at hwhole
        exact absurd (hwhole ▸ by simp) hpiece
      · obtain ⟨after, rfl⟩ := List.head?_eq_some_iff.mp hhead
        obtain ⟨rfl, rfl⟩ := append_feed_inj hl hpiece hwhole
        exact Or.inl ⟨rfl, rfl, rfl⟩
    · simp only [List.append_assoc, List.cons_append] at hwhole
      obtain ⟨rfl, rfl⟩ := append_feed_inj hl hfirst hwhole
      refine Or.inr ⟨inner, rfl, by simp, ?_, hpiece, hstop⟩
      cases inner with
      | nil => exact Or.inl rfl
      | cons c cs => simpa using hstart
  · rintro (⟨rfl, rfl, rfl⟩ | ⟨inner, rfl, rfl, hstart, hpiece, hstop⟩)
    · exact ⟨rfl, Or.inl rfl, hl, Or.inr rfl⟩
    · refine ⟨by simp, Or.inr ?_, hpiece, hstop⟩
      rcases hstart with rfl | hlast
      · simp
      · rw [List.getLast?_append_cons, List.getLast?_cons, hlast]
        rfl

/-- The pieces of a text are what it can be cut around, each at the number of the line feeds
before it. -/
theorem getElem?_linesOf_iff :
    (linesOf cs)[n]? = some piece ↔
      ∃ before after, Cut cs before piece after ∧ before.count '\n' = n := by
  -- On the number, from piece to piece.
  induction n generalizing cs with
  | zero =>
      rcases feedless_or_append_feed cs with hcs | ⟨l, rest, rfl, hl⟩
      · rw [linesOf_of_feedless hcs]
        constructor
        · intro h
          cases h
          exact ⟨[], [], ⟨by simp, Or.inl rfl, hcs, Or.inl rfl⟩, rfl⟩
        · rintro ⟨before, after, hcut, -⟩
          obtain ⟨-, rfl, -⟩ := cut_of_feedless hcs hcut
          rfl
      · rw [linesOf_append_feed hl]
        constructor
        · intro h
          cases h
          exact ⟨[], _, (cut_append_feed_iff hl).mpr (Or.inl ⟨rfl, rfl, rfl⟩), rfl⟩
        · rintro ⟨before, after, hcut, hcount⟩
          rcases (cut_append_feed_iff hl).mp hcut with ⟨-, rfl, -⟩ | ⟨inner, rfl, -⟩
          · rfl
          · simp at hcount
  | succ n ih =>
      rcases feedless_or_append_feed cs with hcs | ⟨l, rest, rfl, hl⟩
      · rw [linesOf_of_feedless hcs]
        constructor
        · intro h
          simp at h
        · rintro ⟨before, after, hcut, hcount⟩
          obtain ⟨rfl, -⟩ := cut_of_feedless hcs hcut
          simp at hcount
      · rw [linesOf_append_feed hl, List.getElem?_cons_succ, ih]
        have hnone : l.count '\n' = 0 := List.count_eq_zero_of_not_mem hl
        constructor
        · rintro ⟨inner, after, hcut, hcount⟩
          exact ⟨l ++ '\n' :: inner, after,
            (cut_append_feed_iff hl).mpr (Or.inr ⟨inner, rfl, hcut⟩), by simp [hnone, hcount]⟩
        · rintro ⟨before, after, hcut, hcount⟩
          rcases (cut_append_feed_iff hl).mp hcut with ⟨rfl, -⟩ | ⟨inner, rfl, hinner⟩
          · simp at hcount
          · exact ⟨inner, after, hinner, by simpa [hnone] using hcount⟩

end Pieces

/-! ## Lines -/

variable {source : String} {n : Nat}

/-- The pieces that are lines: all of them, but for the last one if that is empty. -/
def linePieces (cs : List Char) : List (List Char) :=
  if (linesOf cs).getLast? = some [] then (linesOf cs).dropLast else linesOf cs

theorem sourceLines_eq (source : String) :
    sourceLines source = (linePieces source.toList).map (List.rdropWhile (· = '\r')) := rfl

/-- The last piece is the one before which all line feeds stand. -/
theorem Cut.after_eq_nil_iff {cs before piece after : List Char}
    (hcut : Cut cs before piece after) :
    after = [] ↔ before.count '\n' = cs.count '\n' := by
  obtain ⟨rfl, -, hpiece, hstop⟩ := hcut
  have hnone : piece.count '\n' = 0 := List.count_eq_zero_of_not_mem hpiece
  rcases hstop with rfl | hhead
  · simp [hnone]
  · obtain ⟨after, rfl⟩ := List.head?_eq_some_iff.mp hhead
    simp [hnone]

theorem getElem?_linePieces_iff {cs piece : List Char} :
    (linePieces cs)[n]? = some piece ↔
      ∃ before after, Cut cs before piece after ∧ before.count '\n' = n ∧
        (after = [] → piece ≠ []) := by
  have hlast : (linesOf cs).getLast? = (linesOf cs)[cs.count '\n']? := by
    rw [List.getLast?_eq_getElem?, length_linesOf, Nat.add_sub_cancel]
  unfold linePieces
  split
  · next hempty =>
      rw [List.getElem?_dropLast, length_linesOf, Nat.add_sub_cancel]
      split
      · next hlt =>
          rw [getElem?_linesOf_iff]
          constructor
          · rintro ⟨before, after, hcut, rfl⟩
            exact ⟨before, after, hcut, rfl, fun hafter => absurd (hcut.after_eq_nil_iff.mp hafter)
              (Nat.ne_of_lt hlt)⟩
          · rintro ⟨before, after, hcut, hcount, -⟩
            exact ⟨before, after, hcut, hcount⟩
      · next hge =>
          refine iff_of_false (by simp) ?_
          rintro ⟨before, after, hcut, rfl, hsome⟩
          have hall : before.count '\n' = cs.count '\n' := by
            have hle := congrArg (List.count '\n') hcut.whole
            simp only [List.count_append] at hle
            omega
          have hpiece := getElem?_linesOf_iff.mpr ⟨before, after, hcut, hall⟩
          rw [← hlast, hempty] at hpiece
          exact hsome (hcut.after_eq_nil_iff.mpr hall) (Option.some.inj hpiece).symm
  · next hsome =>
      rw [getElem?_linesOf_iff]
      constructor
      · rintro ⟨before, after, hcut, rfl⟩
        refine ⟨before, after, hcut, rfl, fun hafter hpiece => hsome ?_⟩
        rw [hlast, getElem?_linesOf_iff, ← hpiece]
        exact ⟨before, after, hcut, hcut.after_eq_nil_iff.mp hafter⟩
      · rintro ⟨before, after, hcut, hcount, -⟩
        exact ⟨before, after, hcut, hcount⟩

theorem sourceLines_getElem?_iff {text : List Char} :
    (sourceLines source)[n]? = some text ↔ IsLine source.toList (n + 1) text := by
  rw [sourceLines_eq, List.getElem?_map, Option.map_eq_some_iff]
  simp only [getElem?_linePieces_iff, IsLine, Nat.add_right_cancel_iff]
  constructor
  · rintro ⟨piece, ⟨before, after, hcut, hcount, hsome⟩, rfl⟩
    exact ⟨before, piece, after, hcut, hcount, hsome, rfl⟩
  · rintro ⟨before, piece, after, hcut, hcount, hsome, rfl⟩
    exact ⟨piece, ⟨before, after, hcut, hcount, hsome⟩, rfl⟩

/-- A text has no more lines than characters. -/
theorem IsLine.le_length {cs text : List Char} (h : IsLine cs n text) : n ≤ cs.length := by
  obtain ⟨before, piece, after, ⟨rfl, -, -, hstop⟩, rfl, hsome, -⟩ := h
  have hbefore := List.count_le_length (a := '\n') (l := before)
  have hmore : 0 < piece.length + after.length := by
    rcases hstop with rfl | hhead
    · have hpos := List.length_pos_iff.mpr (hsome rfl)
      omega
    · obtain ⟨after, rfl⟩ := List.head?_eq_some_iff.mp hhead
      simp
  simp only [List.length_append]
  omega

/-- The line of a number is the line of the source; the number zero stands for one. -/
theorem sourceLine?_eq_some_iff {text : String} :
    sourceLine? source n = some text ↔ IsLine source.toList (max 1 n) text.toList := by
  have hnumber : max 1 n = n - 1 + 1 := by omega
  rw [hnumber, ← sourceLines_getElem?_iff, sourceLine?, Option.map_eq_some_iff]
  constructor
  · rintro ⟨cs, hcs, rfl⟩
    simpa using hcs
  · intro h
    exact ⟨text.toList, h, String.ofList_toList⟩

end LuaShell.Diagnostic
