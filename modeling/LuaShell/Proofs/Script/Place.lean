import LuaShell.Proofs.Script.Location
import Mathlib

/-!
# Places that are read off texts

The place before a message and the place in a frame of a call stack are found by one search.  What
it finds is said here without the search: the text is cut at the first mark of a place in its first
line (`Located`, `located?_eq_some_iff`), and nothing is found exactly if that line holds no mark
(`located?_eq_none_iff`).

Nobody asks where a text comes from.  So any text names a place that looks as if it did
(`NamesPlace`, `ofMessage?_eq_some_iff`).
-/

namespace LuaShell.Diagnostic

/-- A text is cut at the first mark of a place in its first line. -/
structure Located (tail cs origin digits rest : List Char) : Prop where
  whole : cs = origin ++ ':' :: (digits ++ ':' :: tail ++ rest)
  line : '\n' ∉ origin
  first : ¬ Marked (':' :: tail) origin
  some_digits : digits ≠ []
  digits : ∀ c ∈ digits, Text.isDigit c = true

section Search

variable {tail cs origin digits rest : List Char} {x : Char}

/-- A text with one more character in front holds a mark there or behind it. -/
theorem marked_cons_iff {c : Char} :
    Marked (':' :: tail) (c :: cs) ↔
      (numberAt? (':' :: tail) (c :: cs)).isSome = true ∨ Marked (':' :: tail) cs := by
  simp only [marked_iff_exists_tails, List.tails_cons, List.mem_cons, exists_eq_or_imp]

theorem not_marked_nil : ¬ Marked (':' :: tail) [] := by
  rintro ⟨digits, -, -, hstands⟩
  simp at hstands

theorem Marked.colon_mem {mark : List Char} (h : Marked mark cs) : ':' ∈ cs := by
  obtain ⟨digits, -, -, hstands⟩ := h
  exact hstands.subset List.mem_cons_self

theorem Marked.of_part {mark piece : List Char} (h : Marked mark piece) (hpart : piece <:+: cs) :
    Marked mark cs := by
  obtain ⟨digits, hne, hdigits, hstands⟩ := h
  exact ⟨digits, hne, hdigits, hstands.trans hpart⟩

/-- A mark ends in its last character, so it does not end in any other. -/
theorem Marked.of_concat {mark : List Char} {last c : Char} (hlast : mark.getLast? = some last)
    (hc : c ≠ last) (h : Marked mark (cs ++ [c])) : Marked mark cs := by
  obtain ⟨digits, hne, hdigits, hstands⟩ := h
  refine ⟨digits, hne, hdigits, ?_⟩
  -- If the mark reached the last character, both would be the same.
  rcases List.infix_concat_iff.mp hstands with ⟨before, hends⟩ | hwithin
  · have hmark : mark ≠ [] := by
      rintro rfl
      cases hlast
    have hboth := congrArg List.getLast? hends
    rw [List.getLast?_append_of_ne_nil _ (by simp), List.getLast?_append_of_ne_nil _ hmark, hlast,
      List.getLast?_concat] at hboth
    exact absurd (Option.some.inj hboth).symm hc
  · exact hwithin

theorem Marked.of_append {mark more : List Char} {last : Char} (hlast : mark.getLast? = some last)
    (hmore : last ∉ more) (h : Marked mark (cs ++ more)) : Marked mark cs := by
  induction more using List.reverseRecOn with
  | nil => simpa using h
  | append_singleton more c ih =>
      rw [List.mem_append, List.mem_singleton, not_or] at hmore
      rw [← List.append_assoc] at h
      exact ih hmore.1 (h.of_concat hlast (Ne.symm hmore.2))

/-- A space completes a mark before messages only behind a colon. -/
theorem Marked.of_concat_space (hcolon : cs.getLast? ≠ some ':')
    (h : Marked [':', ' '] (cs ++ [' '])) : Marked [':', ' '] cs := by
  obtain ⟨digits, hne, hdigits, hstands⟩ := h
  refine ⟨digits, hne, hdigits, ?_⟩
  rcases List.infix_concat_iff.mp hstands with ⟨before, hends⟩ | hwithin
  · have hwhole : before ++ ':' :: digits ++ [':'] ++ [' '] = cs ++ [' '] := by simpa using hends
    rw [← List.append_cancel_right hwhole, List.getLast?_concat] at hcolon
    exact absurd rfl hcolon
  · exact hwithin

/-- A mark before messages ends in its only space, so it stands before a space, or ends in it, or
stands behind it. -/
theorem marked_append_space_iff {before after : List Char} :
    Marked [':', ' '] (before ++ ' ' :: after) ↔
      Marked [':', ' '] (before ++ [' ']) ∨ Marked [':', ' '] after := by
  have hwhole : before ++ ' ' :: after = (before ++ [' ']) ++ after := by simp
  constructor
  · rintro ⟨digits, hne, hdigits, hstands⟩
    rw [hwhole, List.infix_append_iff_ne_nil] at hstands
    rcases hstands with hbefore | hafter | ⟨l₁, l₂, hne₁, hne₂, hmark, hend, -⟩
    · exact .inl ⟨digits, hne, hdigits, hbefore⟩
    · exact .inr ⟨digits, hne, hdigits, hafter⟩
    · exfalso
      -- A mark across both parts would have this space among its digits.
      have hspace : ' ' ∈ l₁ := by
        obtain ⟨s, hs⟩ := hend
        have hlast := congrArg List.getLast? hs
        rw [List.getLast?_append_of_ne_nil _ hne₁, List.getLast?_concat] at hlast
        exact List.mem_of_getLast? hlast
      have hinit : (':' :: digits ++ [':', ' ']).dropLast = ':' :: digits ++ [':'] := by
        rw [show ':' :: digits ++ [':', ' '] = (':' :: digits ++ [':']) ++ [' '] by simp,
          List.dropLast_concat]
      have hbegins : l₁ <+: ':' :: digits ++ [':'] := by
        rw [← hinit, hmark, List.dropLast_append_of_ne_nil hne₂]
        exact List.prefix_append l₁ _
      have hmem : ' ' ∈ digits := by simpa using hbegins.subset hspace
      exact absurd (hdigits ' ' hmem) (by decide)
  · rintro (hbefore | hafter)
    · exact hbefore.of_part (hwhole ▸ (List.prefix_append _ _).isInfix)
    · exact hafter.of_part (hwhole ▸ (List.suffix_append _ _).isInfix)

theorem isSome_numberAt?_iff :
    (numberAt? (':' :: tail) cs).isSome = true ↔
      ∃ digits rest, digits ≠ [] ∧ (∀ c ∈ digits, Text.isDigit c = true) ∧
        cs = ':' :: digits ++ ':' :: tail ++ rest := by
  simp only [Option.isSome_iff_exists, Prod.exists, numberAt?_eq_some_iff]

theorem isSome_numberAt?_append (h : (numberAt? (':' :: tail) cs).isSome = true)
    (more : List Char) : (numberAt? (':' :: tail) (cs ++ more)).isSome = true := by
  obtain ⟨digits, rest, hne, hdigits, rfl⟩ := isSome_numberAt?_iff.mp h
  exact isSome_numberAt?_iff.mpr ⟨digits, rest ++ more, hne, hdigits, by simp⟩

/-- Whether a number and a mark stand at the start of a text is decided in its first line. -/
theorem isSome_numberAt?_takeWhile (cs : List Char) (hfeed : '\n' ∉ tail) :
    (numberAt? (':' :: tail) (cs.takeWhile (· ≠ '\n'))).isSome = true ↔
      (numberAt? (':' :: tail) cs).isSome = true := by
  constructor
  · intro h
    have happend := isSome_numberAt?_append h (cs.dropWhile (· ≠ '\n'))
    rwa [List.takeWhile_append_dropWhile] at happend
  · intro h
    obtain ⟨digits, rest, hne, hdigits, rfl⟩ := isSome_numberAt?_iff.mp h
    have hwithin : ∀ c ∈ ':' :: digits ++ ':' :: tail, decide (c ≠ '\n') = true := by
      intro c hc
      rw [decide_eq_true_eq]
      rintro rfl
      have hmem : '\n' ∈ digits := by simpa [hfeed] using hc
      exact absurd (hdigits _ hmem) (by decide)
    rw [List.takeWhile_append_of_pos hwithin]
    exact isSome_numberAt?_iff.mpr ⟨digits, _, hne, hdigits, rfl⟩

/-- Nothing is found exactly if the first line holds no mark. -/
theorem located?_eq_none_iff (hfeed : '\n' ∉ tail) :
    located? (':' :: tail) cs = none ↔ ¬ Marked (':' :: tail) (cs.takeWhile (· ≠ '\n')) := by
  induction cs with
  | nil => simp [located?, not_marked_nil]
  | cons c cs ih =>
      have hhere := isSome_numberAt?_takeWhile (c :: cs) hfeed
      by_cases hc : c = '\n'
      · subst hc
        have hnone : numberAt? (':' :: tail) ('\n' :: cs) = none := rfl
        simp [located?, hnone, not_marked_nil]
      · have hline : (c :: cs).takeWhile (· ≠ '\n') = c :: cs.takeWhile (· ≠ '\n') := by
          simp [hc]
        rw [hline] at hhere
        rw [hline, marked_cons_iff, hhere, located?]
        cases hnumber : numberAt? (':' :: tail) (c :: cs) with
        | some found => simp
        | none => simp [hc, ih]

/-- The search finds the first mark, and nothing else. -/
theorem located?_eq_some_iff (hcolon : ':' ∉ x :: tail) (hx : Text.isDigit x = false) :
    located? (':' :: x :: tail) cs = some (origin, digits, rest) ↔
      Located (x :: tail) cs origin digits rest := by
  constructor
  · intro hfound
    induction cs generalizing origin with
    | nil => cases hfound
    | cons c cs ih =>
        rw [located?] at hfound
        split at hfound
        · next read after hnumber =>
            cases hfound
            obtain ⟨hne, hdigits, hwhole⟩ := numberAt?_eq_some_iff.mp hnumber
            exact ⟨by simpa using hwhole, by simp, not_marked_nil, hne, hdigits⟩
        · next hnumber =>
            split at hfound
            · cases hfound
            · next hc =>
                obtain ⟨⟨before, found⟩, hlater, heq⟩ := Option.map_eq_some_iff.mp hfound
                cases heq
                obtain ⟨hwhole, hline, hfirst, hne, hdigits⟩ := ih hlater
                refine ⟨by rw [hwhole]; rfl, ?_, ?_, hne, hdigits⟩
                · simp [Ne.symm hc, hline]
                · rw [marked_cons_iff, not_or]
                  -- A mark that begins here within the origin would have been found here.
                  refine ⟨fun hhere => ?_, hfirst⟩
                  have happend := isSome_numberAt?_append hhere
                    (':' :: (digits ++ ':' :: x :: tail ++ rest))
                  rw [List.cons_append, ← hwhole, hnumber] at happend
                  cases happend
  · rintro ⟨rfl, hline, hfirst, hne, hdigits⟩
    exact located?_append hcolon hx hline hfirst hne hdigits

end Search

/-! ## Places before messages -/

/-- A text names a place if it looks as if one had been put before a message: it is cut at the first
mark in its first line, and the digits there write a line. -/
def NamesPlace (text origin : String) (n : Nat) (rest : String) : Prop :=
  ∃ digits, Located [' '] text.toList origin.toList digits rest.toList ∧
    lineNumber? digits = some n

theorem ofMessage?_eq_some_iff {text origin rest : String} {n : Nat} :
    ofMessage? text = some (origin, n, rest) ↔ NamesPlace text origin n rest := by
  unfold NamesPlace
  have hspace : ':' ∉ [' '] := by decide
  simp only [← located?_eq_some_iff hspace (by decide)]
  rw [ofMessage?]
  constructor
  · intro hread
    split at hread
    · cases hread
    · next before digits after hfound =>
        obtain ⟨line, hline, heq⟩ := Option.map_eq_some_iff.mp hread
        cases heq
        exact ⟨digits, by simpa using hfound, hline⟩
  · rintro ⟨digits, hfound, hline⟩
    simp [hfound, hline]

theorem ofMessage?_eq_none_iff {text : String} :
    ofMessage? text = none ↔ ∀ origin n rest, ¬ NamesPlace text origin n rest := by
  simp only [Option.eq_none_iff_forall_ne_some, Prod.forall, ne_eq, ofMessage?_eq_some_iff]

/-- A text whose first line holds no mark names no place. -/
theorem ofMessage?_of_not_marked {text : String}
    (h : ¬ Marked [':', ' '] (text.toList.takeWhile (· ≠ '\n'))) : ofMessage? text = none := by
  rw [ofMessage?, (located?_eq_none_iff (by decide)).mpr h]

/-- A text that names a place is more than what stands behind the place. -/
theorem NamesPlace.ne_rest {text origin rest : String} {n : Nat}
    (h : NamesPlace text origin n rest) : rest ≠ text := by
  obtain ⟨digits, hlocated, -⟩ := h
  intro heq
  have hlength := congrArg List.length hlocated.whole
  rw [heq] at hlength
  simp only [List.length_append, List.length_cons] at hlength
  omega

end LuaShell.Diagnostic
