import LuaShell.Proofs.Number.Numeral
import LuaShell.Script.Diagnostic
import Mathlib

/-!
# Where a message points

An engine puts the place of a failure before its message, `origin:line: message`.  The place is
read back by a search for the first colon that digits, a colon and a space follow.  That finds
what was written as long as the origin holds no such mark itself (`located?_append`): none can
begin in the origin and end behind it.

The failure of a run may carry the call stack in the same text, from its heading on, and the text
is cut at the first heading (`splitTrace_placed`, `splitTrace_placed_trace`).  A heading ends in a
colon, and the colon behind the origin can be that one: then the place is cut away with the call
stack, so the origin with its colon must hold no heading.  Under these conditions the place and
the message come back whatever native functions have wrapped the failure (`ofError_pointsTo`).
-/

namespace LuaShell

namespace EngineError

/-! ## Cutting a text before a part of it -/

variable {part before after cs : List Char}

theorem splitAt?_eq_none_iff : splitAt? part cs = none ↔ ¬ part <:+: cs := by
  induction cs with
  | nil =>
      cases part <;> simp [splitAt?]
  | cons c cs ih =>
      rw [splitAt?, List.infix_cons_iff, ← List.isPrefixOf_iff_prefix]
      by_cases hhere : part.isPrefixOf (c :: cs) = true
      · simp [hhere]
      · simp [hhere, ih]

theorem splitAt?_append_self (hpart : part ≠ []) :
    splitAt? part (part ++ after) = some ([], part ++ after) := by
  obtain ⟨c, cs, rfl⟩ := List.exists_cons_of_ne_nil hpart
  have hhere : (c :: cs).isPrefixOf (c :: (cs ++ after)) = true :=
    List.isPrefixOf_iff_prefix.mpr ⟨after, rfl⟩
  rw [List.cons_append, splitAt?, if_pos hhere]

/-- What begins before a character that it does not hold ends before it. -/
theorem prefix_of_prefix_append_cons {sep : Char} (hsep : sep ∉ part)
    (hpart : part <+: before ++ sep :: after) : part <+: before := by
  have hbefore : before ++ [sep] <+: before ++ sep :: after := ⟨after, by simp⟩
  rcases List.prefix_or_prefix_of_prefix hpart hbefore with hshort | hlong
  · rcases List.prefix_concat_iff.mp hshort with rfl | hwithin
    · simp at hsep
    · exact hwithin
  · exact absurd (hlong.subset (by simp)) hsep

/-- A part that stands behind a character which it does not hold is found there, if it does not
stand before that character. -/
theorem splitAt?_append_cons {sep : Char} (hpart : part ≠ []) (hsep : sep ∉ part)
    (hbefore : ¬ part <:+: before) :
    splitAt? part (before ++ sep :: (part ++ after)) =
      some (before ++ [sep], part ++ after) := by
  induction before with
  | nil =>
      have hhere : part.isPrefixOf (sep :: (part ++ after)) ≠ true := fun hhere => by
        obtain ⟨c, cs, rfl⟩ := List.exists_cons_of_ne_nil hpart
        have hc := List.isPrefixOf_iff_prefix.mp hhere
        rw [List.cons_prefix_cons] at hc
        exact hsep (hc.1 ▸ List.mem_cons_self)
      rw [List.nil_append, splitAt?, if_neg hhere, splitAt?_append_self hpart]
      rfl
  | cons c cs ih =>
      rw [List.infix_cons_iff, not_or] at hbefore
      have hhere : part.isPrefixOf (c :: (cs ++ sep :: (part ++ after))) ≠ true := fun hhere =>
        hbefore.1 (prefix_of_prefix_append_cons hsep (List.isPrefixOf_iff_prefix.mp hhere))
      rw [List.cons_append, splitAt?, if_neg hhere, ih hbefore.2]
      rfl

/-- The heading of a call stack ends in its only colon, so it stands before a colon, or ends in
it, or stands behind it. -/
theorem marker_infix_append_colon (hstands : marker.toList <:+: before ++ ':' :: after) :
    marker.toList <:+: before ++ [':'] ∨ marker.toList <:+: after := by
  rw [show before ++ ':' :: after = (before ++ [':']) ++ after by simp,
    List.infix_append_iff_ne_nil] at hstands
  rcases hstands with hbefore | hafter | ⟨l₁, l₂, hne₁, hne₂, hmarker, hend, -⟩
  · exact Or.inl hbefore
  · exact Or.inr hafter
  · exfalso
    have hcolon : ':' ∈ l₁ := by
      obtain ⟨s, hs⟩ := hend
      have hlast := congrArg List.getLast? hs
      rw [List.getLast?_append_of_ne_nil _ hne₁, List.getLast?_concat] at hlast
      exact List.mem_of_getLast? hlast
    have hbefore : l₁ <+: marker.toList.dropLast := by
      rw [hmarker, List.dropLast_append_of_ne_nil hne₂]
      exact List.prefix_append l₁ _
    exact absurd (hbefore.subset hcolon) (by decide)

/-! ## Wrapped failures -/

/-- A failure after it has passed through native functions, with the call stacks there, the
outermost first. -/
def under (traces : List String) (e : EngineError) : EngineError :=
  traces.foldr callback e

end EngineError

namespace Diagnostic

open EngineError (marker under)

/-- A wrapped failure has the message of what is wrapped, and the outermost call stack. -/
theorem flatten_under (traces : List String) (e : EngineError) :
    flatten (under traces e) = ((flatten e).1, traces.head?.or (flatten e).2) := by
  induction traces with
  | nil => rfl
  | cons trace traces ih =>
      rw [under, List.foldr_cons, flatten]
      rw [under] at ih
      rw [ih]
      rfl

/-! ## Marks of places -/

/-- A text holds a mark of a place: a colon, digits of any script, and what follows a line. -/
def Marked (mark cs : List Char) : Prop :=
  ∃ digits, digits ≠ [] ∧ (∀ c ∈ digits, Text.isDigit c = true) ∧ ':' :: digits ++ mark <:+: cs

section Marks

variable {tail digits rest origin cs : List Char}

/-- What is found at a colon are digits and a mark, when the mark begins with no digit. -/
theorem numberAt?_eq_some_iff :
    numberAt? (':' :: tail) cs = some (digits, rest) ↔
      digits ≠ [] ∧ (∀ c ∈ digits, Text.isDigit c = true) ∧
        cs = ':' :: digits ++ ':' :: tail ++ rest := by
  have hcolon : Text.isDigit ':' = false := by decide
  constructor
  · intro hfound
    unfold numberAt? at hfound
    split at hfound
    · next cs =>
        dsimp only at hfound
        split_ifs at hfound with hempty hmark
        obtain ⟨after, hafter⟩ := List.isPrefixOf_iff_prefix.mp hmark
        cases hfound
        refine ⟨by simpa using hempty, fun c => List.mem_takeWhile_imp, ?_⟩
        rw [← hafter, List.drop_left, List.append_assoc, hafter, List.cons_append,
          List.takeWhile_append_dropWhile]
    · cases hfound
  · rintro ⟨hne, hdigits, rfl⟩
    have htake : (digits ++ ':' :: (tail ++ rest)).takeWhile Text.isDigit = digits := by
      rw [List.takeWhile_append_of_pos hdigits]
      simp [hcolon]
    have hdrop : (digits ++ ':' :: (tail ++ rest)).dropWhile Text.isDigit =
        ':' :: (tail ++ rest) := by
      rw [List.dropWhile_append_of_pos hdigits]
      simp [hcolon]
    have hmark : (':' :: tail).isPrefixOf (':' :: (tail ++ rest)) = true :=
      List.isPrefixOf_iff_prefix.mpr ⟨rest, rfl⟩
    simp only [List.cons_append, List.append_assoc, numberAt?, htake, hdrop, hmark, if_true]
    simp [hne]

/-- A mark is held where a number and the mark are found in the text. -/
theorem marked_iff_exists_tails :
    Marked (':' :: tail) cs ↔ ∃ piece ∈ cs.tails, (numberAt? (':' :: tail) piece).isSome = true := by
  constructor
  · rintro ⟨digits, hne, hdigits, before, after, rfl⟩
    refine ⟨':' :: digits ++ ':' :: tail ++ after, ?_, ?_⟩
    · exact (List.mem_tails _ _).mpr ⟨before, by simp⟩
    · rw [numberAt?_eq_some_iff.mpr ⟨hne, hdigits, rfl⟩]
      rfl
  · rintro ⟨piece, hpiece, hfound⟩
    obtain ⟨⟨digits, rest⟩, hfound⟩ := Option.isSome_iff_exists.mp hfound
    obtain ⟨hne, hdigits, rfl⟩ := numberAt?_eq_some_iff.mp hfound
    exact ⟨digits, hne, hdigits,
      (List.prefix_append _ _).isInfix.trans ((List.mem_tails _ _).mp hpiece).isInfix⟩

instance : Decidable (Marked (':' :: tail) cs) :=
  decidable_of_iff _ marked_iff_exists_tails.symm

/-- No mark begins in an origin and ends behind it: the colon behind the origin would be the one
inside the mark, and what follows that is no digit. -/
theorem numberAt?_append_eq_none {x : Char} {behind : List Char} (hcolon : ':' ∉ x :: tail)
    (hx : Text.isDigit x = false) (hmark : ¬ Marked (':' :: x :: tail) origin)
    (horigin : origin ≠ []) (hne : digits ≠ [])
    (hdigits : ∀ c ∈ digits, Text.isDigit c = true) :
    numberAt? (':' :: x :: tail) (origin ++ ':' :: (digits ++ behind)) = none := by
  by_contra hsome
  obtain ⟨⟨read, rest⟩, hfound⟩ := Option.ne_none_iff_exists'.mp hsome
  obtain ⟨hreadne, hread, heq⟩ := numberAt?_eq_some_iff.mp hfound
  rcases List.append_eq_append_iff.mp heq with ⟨within, hwhole, hbehind⟩ | ⟨after, rfl, -⟩
  · cases within with
    | nil =>
        rw [List.append_nil] at hwhole
        exact hmark ⟨read, hreadne, hread, hwhole ▸ List.infix_rfl⟩
    | cons sep within =>
        obtain ⟨rfl, hnext⟩ := List.cons_eq_cons.mp hbehind
        obtain ⟨c, origin, rfl⟩ := List.exists_cons_of_ne_nil horigin
        have hfree : ':' ∉ read := fun hmem => absurd (hread ':' hmem) (by decide)
        obtain ⟨-, hwhole⟩ := List.cons_eq_cons.mp hwhole
        obtain ⟨-, -, rfl⟩ := (List.append_cons_inj_of_notMem hfree hcolon).mp hwhole
        obtain ⟨d, digits, rfl⟩ := List.exists_cons_of_ne_nil hne
        obtain ⟨rfl, -⟩ := List.cons_eq_cons.mp hnext
        exact absurd (hdigits d List.mem_cons_self) (by simp [hx])
  · exact hmark ⟨read, hreadne, hread, (List.prefix_append _ _).isInfix⟩

theorem Marked.of_tail {mark : List Char} {c : Char} (h : Marked mark cs) :
    Marked mark (c :: cs) := by
  obtain ⟨digits, hne, hdigits, hstands⟩ := h
  exact ⟨digits, hne, hdigits, List.infix_cons hstands⟩

/-- A place is read back as it was written behind an origin of one line without a mark. -/
theorem located?_append {x : Char} (hcolon : ':' ∉ x :: tail) (hx : Text.isDigit x = false)
    (hline : '\n' ∉ origin) (hmark : ¬ Marked (':' :: x :: tail) origin) (hne : digits ≠ [])
    (hdigits : ∀ c ∈ digits, Text.isDigit c = true) :
    located? (':' :: x :: tail) (origin ++ ':' :: (digits ++ ':' :: x :: tail ++ rest)) =
      some (origin, digits, rest) := by
  induction origin with
  | nil =>
      have hfound : numberAt? (':' :: x :: tail) (':' :: (digits ++ ':' :: x :: tail ++ rest)) =
          some (digits, rest) :=
        numberAt?_eq_some_iff.mpr ⟨hne, hdigits, by simp⟩
      rw [List.nil_append, located?, hfound]
  | cons c origin ih =>
      obtain ⟨hc, hline⟩ := not_or.mp (List.mem_cons.not.mp hline)
      have hnone : numberAt? (':' :: x :: tail)
          (c :: origin ++ ':' :: (digits ++ (':' :: x :: tail ++ rest))) = none :=
        numberAt?_append_eq_none hcolon hx hmark (List.cons_ne_nil c origin) hne hdigits
      rw [List.cons_append, List.append_assoc] at *
      rw [located?, hnone]
      simp only [Ne.symm hc, if_false, ih hline fun h => hmark h.of_tail, Option.map_some]

end Marks

/-! ## Places before messages -/

/-- A message behind the place of a failure. -/
def placed (origin : String) (n : Nat) (message : String) : String :=
  origin ++ ":" ++ toString n ++ ": " ++ message

theorem toList_placed (origin : String) (n : Nat) (message : String) :
    (placed origin n message).toList =
      origin.toList ++ ':' :: (Nat.toDigits 10 n ++ ':' :: ' ' :: message.toList) := by
  simp [placed]

theorem ofMessage?_placed {origin : String} {n : Nat} (hline : '\n' ∉ origin.toList)
    (hmark : ¬ Marked [':', ' '] origin.toList) (hn : n < UInt64.size) (message : String) :
    ofMessage? (placed origin n message) = some (origin, n, message) := by
  have hlocated : located? [':', ' '] (origin.toList ++
      ':' :: (Nat.toDigits 10 n ++ [':', ' '] ++ message.toList)) =
        some (origin.toList, Nat.toDigits 10 n, message.toList) :=
    located?_append (by decide) (by decide) hline hmark Nat.toDigits_ne_nil
      fun c hc => Text.isDigit_of_mem_toDigits hc
  have hplaced : (placed origin n message).toList = origin.toList ++
      ':' :: (Nat.toDigits 10 n ++ [':', ' '] ++ message.toList) := by
    simp [toList_placed]
  rw [ofMessage?, hplaced, hlocated]
  simp [lineNumber?, Text.natOfDigits?_toDigits, hn]

/-! ## Places before messages with a call stack -/

theorem trimEnd_concat_of_not_blank {cs : List Char} {last : Char}
    (hlast : Text.isBlank last = false) : Text.trimEnd (cs ++ [last]) = cs ++ [last] := by
  simp [Text.trimEnd, hlast]

theorem trimEnd_concat_of_blank (cs : List Char) {last : Char}
    (hlast : Text.isBlank last = true) : Text.trimEnd (cs ++ [last]) = Text.trimEnd cs := by
  simp [Text.trimEnd, hlast]

/-- Between an origin and a message that hold no heading of a call stack none stands either, unless
the colon behind the origin completes one. -/
theorem not_marker_infix_placed {origin message : String}
    (horigin : ¬ marker.toList <:+: origin.toList ++ [':'])
    (hmessage : ¬ marker.toList <:+: message.toList) (n : Nat) :
    ¬ marker.toList <:+: (placed origin n message).toList := by
  rw [toList_placed]
  intro hstands
  rcases EngineError.marker_infix_append_colon hstands with hbefore | hbehind
  · exact horigin hbefore
  rcases EngineError.marker_infix_append_colon hbehind with hline | hspace
  · have hletter : 's' ∈ Nat.toDigits 10 n ++ [':'] := hline.subset (by decide)
    rcases List.mem_append.mp hletter with hdigit | hcolon
    · exact absurd (Text.isDigit_of_mem_toDigits hdigit) (by decide)
    · exact absurd hcolon (by decide)
  · rcases List.infix_cons_iff.mp hspace with hfirst | hwithin
    · rw [show marker.toList = 's' :: marker.toList.tail from rfl, List.cons_prefix_cons] at hfirst
      exact absurd hfirst.1 (by decide)
    · exact hmessage hwithin

theorem splitTrace_placed {origin message : String}
    (horigin : ¬ marker.toList <:+: origin.toList ++ [':'])
    (hmessage : ¬ marker.toList <:+: message.toList) (n : Nat) :
    splitTrace (placed origin n message) = (placed origin n message, none) := by
  rw [splitTrace, EngineError.splitAt?_eq_none_iff.mpr
    (not_marker_infix_placed horigin hmessage n)]

theorem splitTrace_placed_trace {origin message trace : String} {last : Char}
    (horigin : ¬ marker.toList <:+: origin.toList ++ [':'])
    (hmessage : ¬ marker.toList <:+: message.toList)
    (hend : message.toList.getLast? = some last) (hlast : Text.isBlank last = false)
    (htrace : marker.toList <+: trace.toList) (n : Nat) :
    splitTrace (placed origin n message ++ "\n" ++ trace) =
      (placed origin n message, some trace) := by
  obtain ⟨after, hafter⟩ := htrace
  have hcut : EngineError.splitAt? marker.toList
      (placed origin n message ++ "\n" ++ trace).toList =
        some ((placed origin n message).toList ++ ['\n'], trace.toList) := by
    have hfound : EngineError.splitAt? marker.toList
        ((placed origin n message).toList ++ '\n' :: (marker.toList ++ after)) =
          some ((placed origin n message).toList ++ ['\n'], marker.toList ++ after) :=
      EngineError.splitAt?_append_cons (by decide) (by decide)
        (not_marker_infix_placed horigin hmessage n)
    rw [hafter] at hfound
    rw [← hfound]
    simp
  have htrim : Text.trimEnd ((placed origin n message).toList ++ ['\n']) =
      (placed origin n message).toList := by
    obtain ⟨init, hinit⟩ := List.getLast?_eq_some_iff.mp hend
    have hconcat : (placed origin n message).toList =
        (origin.toList ++ ':' :: (Nat.toDigits 10 n ++ ':' :: ' ' :: init)) ++ [last] := by
      simp [toList_placed, hinit]
    rw [trimEnd_concat_of_blank _ (by decide), hconcat, trimEnd_concat_of_not_blank hlast]
  rw [splitTrace, hcut]
  simp [htrim]

/-! ## Diagnostics -/

/-- A diagnostic names a place, has a message and shows a call stack. -/
structure PointsTo (d : Diagnostic) (origin : String) (line : Nat) (message : String)
    (stackTrace : Option String) : Prop where
  origin : d.origin = some origin
  line : d.line = some line
  message : d.message = message
  stackTrace : d.stackTrace = stackTrace

theorem pointsTo_of_flatten {origin message : String} {n : Nat} {trace : Option String}
    (hline : '\n' ∉ origin.toList) (hmark : ¬ Marked [':', ' '] origin.toList)
    (hn : n < UInt64.size) {e : EngineError}
    (hflatten : flatten e = (placed origin n message, trace)) (kind : FailureKind)
    (chunk source : String) : (ofError kind e chunk source).PointsTo origin n message trace := by
  simp only [ofError, hflatten, ofMessage?_placed hline hmark hn]
  exact ⟨rfl, rfl, rfl, rfl⟩

/-- The place that was written before a message is read back, and the message as it was, from a
failure to compile and from one of a run, with and without a call stack behind it and however
native functions have wrapped it. -/
theorem ofError_pointsTo {origin : String} {n : Nat} (hline : '\n' ∉ origin.toList)
    (hmark : ¬ Marked [':', ' '] origin.toList) (hn : n < UInt64.size) (message : String)
    (traces : List String) (kind : FailureKind) (chunk source : String) :
    (∀ incomplete,
      (ofError kind (under traces (.compile (placed origin n message) incomplete)) chunk
        source).PointsTo origin n message traces.head?) ∧
    (¬ marker.toList <:+: origin.toList ++ [':'] → ¬ marker.toList <:+: message.toList →
      (ofError kind (under traces (.runtime (placed origin n message))) chunk source).PointsTo
        origin n message traces.head? ∧
      ∀ last trace, message.toList.getLast? = some last → Text.isBlank last = false →
        marker.toList <+: trace.toList →
        (ofError kind (under traces (.runtime (placed origin n message ++ "\n" ++ trace))) chunk
          source).PointsTo origin n message (traces.head?.or (some trace))) := by
  refine ⟨fun incomplete => ?_, fun horigin hmessage => ⟨?_, ?_⟩⟩
  · refine pointsTo_of_flatten hline hmark hn ?_ kind chunk source
    rw [flatten_under, flatten, Option.or_none]
  · refine pointsTo_of_flatten hline hmark hn ?_ kind chunk source
    rw [flatten_under, flatten, splitTrace_placed horigin hmessage, Option.or_none]
  · intro last trace hend hlast htrace
    refine pointsTo_of_flatten hline hmark hn ?_ kind chunk source
    rw [flatten_under, flatten, splitTrace_placed_trace horigin hmessage hend hlast htrace]

/-- An origin with colons and digits, and a message of two lines that look like places: once from a
failure to compile below two native functions, once from a run with a call stack. -/
theorem ofError_pointsTo_colons :
    let origin := "a:1.lua"
    let message := "b:2: boom\n:3: again"
    let trace := "stack traceback:\n\t[C]: in ?"
    '\n' ∉ origin.toList ∧ ¬ Marked [':', ' '] origin.toList ∧ 12 < UInt64.size ∧
    ¬ marker.toList <:+: origin.toList ++ [':'] ∧ ¬ marker.toList <:+: message.toList ∧
    message.toList.getLast? = some 'n' ∧ Text.isBlank 'n' = false ∧
    marker.toList <+: trace.toList ∧
    (ofError .compile (under ["outer", "inner"] (.compile "a:1.lua:12: b:2: boom\n:3: again" true))
      origin "").PointsTo origin 12 message (some "outer") ∧
    (ofError .runtime (.runtime
        "a:1.lua:12: b:2: boom\n:3: again\nstack traceback:\n\t[C]: in ?")
      origin "").PointsTo origin 12 message (some trace) := by
  intro origin message trace
  have hline : '\n' ∉ origin.toList := by decide
  have hmark : ¬ Marked [':', ' '] origin.toList := by decide
  have hn : 12 < UInt64.size := by decide
  have horigin : ¬ marker.toList <:+: origin.toList ++ [':'] := by decide
  have hmessage : ¬ marker.toList <:+: message.toList := by decide
  have hend : message.toList.getLast? = some 'n' := by decide
  have hlast : Text.isBlank 'n' = false := by decide
  have htrace : marker.toList <+: trace.toList := by decide
  refine ⟨hline, hmark, hn, horigin, hmessage, hend, hlast, htrace, ?_, ?_⟩
  · exact (ofError_pointsTo hline hmark hn message ["outer", "inner"] .compile origin "").1 true
  · exact ((ofError_pointsTo hline hmark hn message [] .runtime origin "").2 horigin hmessage).2
      'n' trace hend hlast htrace

/-- The name of a chunk that ends in the words of the heading: with its colon behind it the whole
text is taken for a call stack, and neither the place nor the message is left. -/
theorem ofError_heading_in_place :
    let origin := "stack traceback"
    let message := "boom"
    '\n' ∉ origin.toList ∧ ¬ Marked [':', ' '] origin.toList ∧
    ¬ marker.toList <:+: origin.toList ∧ ¬ marker.toList <:+: message.toList ∧
    ofError .runtime (.runtime (placed origin 1 message)) origin "error('boom')" =
      ⟨.runtime, "", none, none, none, none, some "stack traceback:1: boom"⟩ ∧
    ¬ (ofError .runtime (.runtime (placed origin 1 message)) origin "error('boom')").PointsTo
      origin 1 message none := by
  intro origin message
  have hdiagnostic : ofError .runtime (.runtime (placed origin 1 message)) origin "error('boom')" =
      ⟨.runtime, "", none, none, none, none, some "stack traceback:1: boom"⟩ := by decide
  refine ⟨by decide, by decide, by decide, by decide, hdiagnostic, fun hpoints => ?_⟩
  rw [hdiagnostic] at hpoints
  cases hpoints.origin

end Diagnostic

end LuaShell
