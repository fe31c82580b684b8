import LuaShell.Lua.Traceback
import LuaShell.Proofs.Script.Place
import LuaShell.Proofs.Script.SourceLine
import LuaShell.Proofs.Text.Truncated
import Mathlib

/-!
# Call stacks of Lua

A call stack is a heading and one line for each call, the innermost first (`stack`).  That of the
interpreter is one (`Lua.Traceback.ofBytesLossy_text`).

From a call stack the first call of code is read that has a line and is not shown in brackets
(`ofTrace?_stack`).  In brackets stand native functions, and so do chunks whose names are made of
their sources.  What is read is what was written as long as the names are plain (`StackLine.Plain`):
the name of a chunk begins with no blank and holds no mark, and none has a line feed.
-/

namespace LuaShell

namespace Diagnostic

/-! ## Lines of a call stack -/

/-- A line of a call stack. -/
inductive StackLine where
  /-- A call of code, at a line of a chunk. -/
  | code (chunk : String) (line : Nat) (name : String)
  /-- A call of code whose lines are not known. -/
  | unnumbered (chunk name : String)
  | native (name : String)
  /-- Calls that were made in place of their callers. -/
  | tail
  /-- Calls that are left out. -/
  | skipped (levels : Nat)

namespace StackLine

def text : StackLine → String
  | .code chunk line name => s!"{chunk}:{line}: in {name}"
  | .unnumbered chunk name => s!"{chunk}: in {name}"
  | .native name => s!"[C]: in {name}"
  | .tail => "(...tail calls...)"
  | .skipped levels => s!"...\t(skipping {levels} levels)"

/-- The place that a line names, which is that of a call of code. Chunks that are shown in brackets
are passed over like native functions. -/
def place? : StackLine → Option (String × Nat)
  | .code chunk line _ => if chunk.toList.head? = some '[' then none else some (chunk, line)
  | _ => none

/-- What stands behind the line in a frame, with the colon before it. -/
def mark : List Char := [':', ' ', 'i', 'n', ' ']

/-- The names in a line can be told from the rest of it. -/
def Plain : StackLine → Prop
  | .code chunk line name => '\n' ∉ chunk.toList ∧ '\n' ∉ name.toList ∧ line < UInt64.size ∧
      ∃ c cs, chunk.toList = c :: cs ∧ Text.isBlank c = false ∧ (c ≠ '[' → ¬ Marked mark cs)
  | .unnumbered chunk name => '\n' ∉ chunk.toList ∧ '\n' ∉ name.toList ∧
      ¬ Marked mark s!"{chunk}: in {name}".toList
  | .native name => '\n' ∉ name.toList
  | .tail | .skipped _ => True

variable {l : StackLine}

theorem Plain.feedless (h : l.Plain) : '\n' ∉ l.text.toList := by
  have hdigits : ∀ n, '\n' ∉ Nat.toDigits 10 n := fun n hmem =>
    absurd (Text.isDigit_of_mem_toDigits hmem) (by decide)
  cases l with
  | code chunk line name =>
      obtain ⟨hchunk, hname, -⟩ := h
      simp [text, toString, hchunk, hname, hdigits]
  | unnumbered chunk name =>
      obtain ⟨hchunk, hname, -⟩ := h
      simp [text, toString, hchunk, hname]
  | native name =>
      have hname : '\n' ∉ name.toList := h
      simp [text, toString, hname]
  | tail => decide
  | skipped levels => simp [text, toString, hdigits]

theorem Plain.line_lt {chunk : String} {n : Nat} (h : l.Plain)
    (hplace : l.place? = some (chunk, n)) : n < UInt64.size := by
  cases l with
  | code chunk line name =>
      rw [place?] at hplace
      split at hplace
      · cases hplace
      · cases hplace
        exact h.2.2.1
  | _ => cases hplace

theorem frame?_of_head {c : Char} {cs : List Char} (hc : Text.isBlank c = false) :
    frame? ('\t' :: c :: cs) =
      if c = '[' then none
      else (located? mark cs).map fun (origin, digits, _) => (c :: origin, digits) := by
  have htab : Text.isBlank '\t' = true := by decide
  have htrim : Text.trimStart ('\t' :: c :: cs) = c :: cs := by
    simp only [Text.trimStart, List.dropWhile_cons, htab, hc, if_true, Bool.false_eq_true, if_false]
  simp only [frame?, htrim]
  rfl

/-- A line without a mark names no place. -/
theorem frame?_of_not_marked {cs : List Char} (h : ¬ Marked mark cs) :
    frame? ('\t' :: cs) = none := by
  -- Blanks and one more character are passed over, so an end of the line is searched.
  have hnone : ∀ ds, ds <:+ cs → located? mark ds = none := fun ds hds =>
    (located?_eq_none_iff (by decide)).mpr fun hmarked =>
      h (hmarked.of_part ((List.takeWhile_prefix _).isInfix.trans hds.isInfix))
  have htab : Text.isBlank '\t' = true := by decide
  have hsuffix : Text.trimStart ('\t' :: cs) <:+ cs := by
    simp only [Text.trimStart, List.dropWhile_cons, htab, if_true]
    exact List.dropWhile_suffix _
  rw [frame?]
  split
  · rfl
  · next c ds hds =>
      rw [hds] at hsuffix
      have hlater := hnone ds ((List.suffix_cons c ds).trans hsuffix)
      split
      · rfl
      · rw [show [':', ' ', 'i', 'n', ' '] = mark from rfl, hlater]
        rfl

/-- The line of a call of code is read as its place, whatever its number is. -/
theorem frame?_code {chunk : String} {c : Char} {cs : List Char} (hcs : chunk.toList = c :: cs)
    (hblank : Text.isBlank c = false) (hchunk : '\n' ∉ chunk.toList)
    (hmark : c ≠ '[' → ¬ Marked mark cs) (line : Nat) (name : String) :
    frame? ('\t' :: (StackLine.code chunk line name).text.toList) =
      (StackLine.code chunk line name).place?.map fun (o, n) => (o.toList, Nat.toDigits 10 n) := by
  have htext : (StackLine.code chunk line name).text.toList =
      c :: (cs ++ ':' :: (Nat.toDigits 10 line ++ mark ++ name.toList)) := by
    simp [text, toString, hcs, mark]
  rw [htext, frame?_of_head hblank, place?, hcs]
  by_cases hbracket : c = '['
  · simp [hbracket]
  · have hfound : located? mark (cs ++ ':' :: (Nat.toDigits 10 line ++ mark ++ name.toList)) =
        some (cs, Nat.toDigits 10 line, name.toList) :=
      located?_append (by decide) (by decide)
        (fun hmem => hchunk (hcs ▸ List.mem_cons_of_mem c hmem)) (hmark hbracket)
        Nat.toDigits_ne_nil fun d hd => Text.isDigit_of_mem_toDigits hd
    rw [if_neg hbracket, hfound, if_neg (by simpa using hbracket), Option.map_some,
      Option.map_some]
    simp only [hcs]

/-- A line is read as the place that it names. -/
theorem Plain.frame?_text (h : l.Plain) :
    frame? ('\t' :: l.text.toList) = l.place?.map fun (o, n) => (o.toList, Nat.toDigits 10 n) := by
  cases l with
  | code chunk line name =>
      obtain ⟨hchunk, -, -, c, cs, hcs, hblank, hmark⟩ := h
      exact frame?_code hcs hblank hchunk hmark line name
  | unnumbered chunk name => exact frame?_of_not_marked h.2.2
  | native name =>
      have htext : (StackLine.native name).text.toList =
          '[' :: 'C' :: ']' :: (mark ++ name.toList) := by
        simp [text, toString, mark]
      rw [htext, frame?_of_head (by decide), if_pos rfl]
      rfl
  | tail => decide
  | skipped levels =>
      refine frame?_of_not_marked fun hmarked => ?_
      have hdigits : ':' ∉ Nat.toDigits 10 levels := fun hmem =>
        absurd (Text.isDigit_of_mem_toDigits hmem) (by decide)
      simpa [text, toString, hdigits] using hmarked.colon_mem

end StackLine

/-! ## Call stacks -/

/-- A text and lines behind it are cut into these. -/
theorem linesOf_append_flatMap {first : List Char} {lines : List (List Char)}
    (hfirst : '\n' ∉ first) (hlines : ∀ line ∈ lines, '\n' ∉ line) :
    linesOf (first ++ lines.flatMap ('\n' :: ·)) = first :: lines := by
  induction lines generalizing first with
  | nil => rw [List.flatMap_nil, List.append_nil, linesOf_of_feedless hfirst]
  | cons line lines ih =>
      rw [List.forall_mem_cons] at hlines
      rw [List.flatMap_cons, List.cons_append, linesOf_append_feed hfirst, ih hlines.1 hlines.2]

/-- The heading of a call stack and lines below it. -/
def headed (lines : List String) : String :=
  EngineError.marker ++ String.join (lines.map fun line => "\n\t" ++ line)

theorem toList_headed (lines : List String) :
    (headed lines).toList = EngineError.marker.toList ++
      (lines.map fun line => '\t' :: line.toList).flatMap ('\n' :: ·) := by
  rw [headed, String.toList_append]
  congr 1
  induction lines with
  | nil => rfl
  | cons line lines ih => simp [String.join_cons, ih]

section Headed

variable {α : Type} {text : α → String} {place? : α → Option (String × Nat)} {ls : List α}

/-- If each line is read as a place or as none, the first place is found. -/
theorem findSome?_frame? (hread : ∀ l ∈ ls,
      frame? ('\t' :: (text l).toList) =
        (place? l).map fun (o, n) => (o.toList, Nat.toDigits 10 n)) :
    (ls.map fun l => '\t' :: (text l).toList).findSome? frame? =
      (ls.findSome? place?).map fun (o, n) => (o.toList, Nat.toDigits 10 n) := by
  induction ls with
  | nil => rfl
  | cons l ls ih =>
      rw [List.forall_mem_cons] at hread
      rw [List.map_cons, List.findSome?_cons, List.findSome?_cons, hread.1]
      cases place? l with
      | none => exact ih hread.2
      | some place => rfl

/-- Of lines that are read as places or as none the first place is that of the call stack, unless
its number has more than sixty-four bits. -/
theorem ofTrace?_headed (hfeed : ∀ l ∈ ls, '\n' ∉ (text l).toList)
    (hread : ∀ l ∈ ls,
      frame? ('\t' :: (text l).toList) =
        (place? l).map fun (o, n) => (o.toList, Nat.toDigits 10 n)) :
    ofTrace? (headed (ls.map text)) =
      (ls.findSome? place?).filter fun place => place.2 < UInt64.size := by
  have hheading : frame? EngineError.marker.toList = none := by decide
  have hlines : linesOf (headed (ls.map text)).toList =
      EngineError.marker.toList :: ls.map fun l => '\t' :: (text l).toList := by
    rw [toList_headed, List.map_map]
    refine linesOf_append_flatMap (by decide) fun line hline => ?_
    obtain ⟨l, hl, rfl⟩ := List.mem_map.mp hline
    simpa using hfeed l hl
  rw [ofTrace?, hlines, List.findSome?_cons, hheading]
  simp only [findSome?_frame? hread]
  cases ls.findSome? place? with
  | none => rfl
  | some place => simp [lineNumber?, Text.natOfDigits?_toDigits, Option.filter]

end Headed

/-- A call stack: its heading, and the lines behind it. -/
def stack (ls : List StackLine) : String :=
  EngineError.marker ++ String.join (ls.map fun l => "\n\t" ++ l.text)

theorem stack_eq_headed (ls : List StackLine) : stack ls = headed (ls.map StackLine.text) := by
  rw [stack, headed, List.map_map]
  rfl

theorem toList_stack (ls : List StackLine) :
    (stack ls).toList =
      EngineError.marker.toList ++ (ls.map fun l => '\t' :: l.text.toList).flatMap ('\n' :: ·) := by
  rw [stack_eq_headed, toList_headed, List.map_map]
  rfl

/-- The first place that a call stack names is the one of the first line that names one. -/
theorem ofTrace?_stack {ls : List StackLine} (hplain : ∀ l ∈ ls, l.Plain) :
    ofTrace? (stack ls) = ls.findSome? StackLine.place? := by
  rw [stack_eq_headed, ofTrace?_headed (fun l hl => (hplain l hl).feedless)
    fun l hl => (hplain l hl).frame?_text]
  cases hplace : ls.findSome? StackLine.place? with
  | none => rfl
  | some place =>
      obtain ⟨l, hl, hfound⟩ := List.exists_of_findSome?_eq_some hplace
      exact Option.filter_some_pos (decide_eq_true ((hplain l hl).line_lt hfound))

end Diagnostic

/-! ## Call stacks of the interpreter -/

namespace Lua.Traceback

open Diagnostic (StackLine stack)

/-- The characters of the lines of a call stack. -/
def written (ls : List StackLine) : List Char :=
  ls.flatMap fun l => '\n' :: '\t' :: l.text.toList

/-- The lines for a call. -/
def callLines (s : State) (frame : Frame) (caller : Option Frame) : List StackLine :=
  let name := Text.ofBytesLossy (frameName s frame caller)
  (match frame with
    | .lua f => match f.line? with
      | some line => .code (Text.ofBytesLossy f.proto.chunkName) line name
      | none => .unnumbered (Text.ofBytesLossy f.proto.chunkName) name
    | _ => .native name) :: if frame.isTail then [.tail] else []

section Decoded

variable (s : State) {more : List UInt8}

theorem written_cons (l : StackLine) (ls : List StackLine) :
    written (l :: ls) = '\n' :: '\t' :: (l.text.toList ++ written ls) := rfl

theorem written_append (ls ls' : List StackLine) :
    written (ls ++ ls') = written ls ++ written ls' :=
  List.flatMap_append

/-- What follows the name in the line of a call. -/
theorem decodeLossy_tail (isTail : Bool) (hmore : ∀ x ∈ more.head?, Text.isContinuation x = false)
    (name : ByteArray) :
    Text.decodeLossy (name.data.toList ++
        ((if isTail then "\n\t(...tail calls...)".toUTF8 else .empty).data.toList ++ more)) =
      (Text.ofBytesLossy name).toList ++
        (written (if isTail then [.tail] else []) ++ Text.decodeLossy more) := by
  rw [Text.ofBytesLossy, String.toList_ofList]
  cases isTail with
  | false => exact Text.decodeLossy_append hmore
  | true =>
      rw [if_pos rfl, if_pos rfl]
      exact Text.decodeLossy_append_text "\n\t(...tail calls...)" (by decide) _ more

/-- The bytes of the line of a call are read as its lines, when what follows is read by itself. -/
theorem decodeLossy_frameLine (frame : Frame) (caller : Option Frame)
    (hmore : ∀ x ∈ more.head?, Text.isContinuation x = false) :
    Text.decodeLossy ((frameLine s frame caller).data.toList ++ more) =
      written (callLines s frame caller) ++ Text.decodeLossy more := by
  have htext : ∀ (text : String) (before after : List UInt8), text.toList ≠ [] →
      Text.decodeLossy (before ++ (text.toUTF8.data.toList ++ after)) =
        Text.decodeLossy before ++ (text.toList ++ Text.decodeLossy after) :=
    fun text before after h => Text.decodeLossy_append_text text h before after
  have hfirst : ∀ (text : String) (after : List UInt8),
      Text.decodeLossy (text.toUTF8.data.toList ++ after) =
        text.toList ++ Text.decodeLossy after := Text.decodeLossy_text_append
  cases frame with
  | native f =>
      simp only [frameLine, callLines, ByteArray.data_append, Array.toList_append,
        List.append_assoc, hfirst, decodeLossy_tail _ hmore, written_cons]
      simp [StackLine.text, toString]
  | lua f =>
      cases hline : f.line? with
      | some line =>
          simp only [frameLine, callLines, hline, ByteArray.data_append, Array.toList_append,
            List.append_assoc, hfirst, htext s!":{line}: in " _ _ (by simp [toString]),
            decodeLossy_tail _ hmore, written_cons]
          simp [StackLine.text, toString, Text.ofBytesLossy]
      | none =>
          simp only [frameLine, callLines, hline, ByteArray.data_append, Array.toList_append,
            List.append_assoc, hfirst, htext ": in " _ _ (by decide),
            decodeLossy_tail _ hmore, written_cons]
          simp [StackLine.text, toString, Text.ofBytesLossy]

/-- The line of a call begins with a byte that continues no character. -/
theorem head?_frameLine (frame : Frame) (caller : Option Frame) :
    ((frameLine s frame caller).data.toList ++ more).head? = some 10 := by
  simp only [frameLine, ByteArray.data_append, Array.toList_append, List.append_assoc]
  rfl

/-- The lines for some calls, of which each is the caller of the one before it. -/
def callLinesOf : List Frame → List (List StackLine)
  | [] => []
  | frame :: callers => callLines s frame callers.head? :: callLinesOf callers

theorem decodeLossy_firstLines (more : List UInt8) (n : Nat) (frames : List Frame)
    (hmore : ∀ x ∈ more.head?, Text.isContinuation x = false) :
    (∀ x ∈ ((firstLines s n frames).data.toList ++ more).head?, Text.isContinuation x = false) ∧
    Text.decodeLossy ((firstLines s n frames).data.toList ++ more) =
      written ((callLinesOf s frames).take n).flatten ++ Text.decodeLossy more := by
  -- A line is read by itself since the one behind it begins with a character; both go together.
  induction n generalizing frames with
  | zero => exact ⟨by simpa [firstLines] using hmore, by simp [firstLines, written]⟩
  | succ n ih =>
      cases frames with
      | nil => exact ⟨by simpa [firstLines] using hmore, by simp [firstLines, callLinesOf, written]⟩
      | cons frame callers =>
          obtain ⟨hhead, hlater⟩ := ih callers
          rw [firstLines, ByteArray.data_append, Array.toList_append, List.append_assoc]
          refine ⟨fun x hx => ?_, ?_⟩
          · rw [head?_frameLine] at hx
            cases hx
            decide
          · rw [decodeLossy_frameLine s frame _ hhead, hlater, callLinesOf, List.take_succ_cons,
              List.flatten_cons, written_append, List.append_assoc]

theorem lines_eq_firstLines (frames : List Frame) :
    lines s frames = firstLines s frames.length frames := by
  induction frames with
  | nil => rfl
  | cons frame callers ih => rw [lines, List.length_cons, firstLines, ih]

theorem length_callLinesOf (frames : List Frame) :
    (callLinesOf s frames).length = frames.length := by
  induction frames with
  | nil => rfl
  | cons frame callers ih => rw [callLinesOf, List.length_cons, ih, List.length_cons]

theorem decodeLossy_lines (frames : List Frame) :
    Text.decodeLossy (lines s frames).data.toList = written (callLinesOf s frames).flatten := by
  obtain ⟨-, hlines⟩ := decodeLossy_firstLines s [] frames.length frames (by simp)
  rw [← lines_eq_firstLines, List.append_nil, List.take_of_length_le
    (Nat.le_of_eq (length_callLinesOf s frames)), Text.decodeLossy, List.append_nil] at hlines
  exact hlines

/-- The lines of the call stack of a state. -/
def stackLines : List StackLine :=
  let frames := s.run.frames
  let count := frames.length
  if count ≤ shownFirst + shownLast + 1 then (callLinesOf s frames).flatten
  else ((callLinesOf s frames).take shownFirst).flatten ++
    .skipped (count - shownFirst - shownLast - 1) ::
      (callLinesOf s (frames.drop (count - shownLast))).flatten

theorem toList_stack_eq_written (ls : List StackLine) :
    (stack ls).toList = EngineError.marker.toList ++ written ls := by
  rw [Diagnostic.toList_stack, List.flatMap_map]
  rfl

/-- The text of a call stack is that of its lines. -/
theorem ofBytesLossy_text : Text.ofBytesLossy (text s) = stack (stackLines s) := by
  have hheading : ∀ after, Text.decodeLossy ("stack traceback:".toUTF8.data.toList ++ after) =
      EngineError.marker.toList ++ Text.decodeLossy after :=
    Text.decodeLossy_text_append "stack traceback:"
  rw [← String.toList_inj, toList_stack_eq_written, Text.ofBytesLossy, String.toList_ofList, text,
    stackLines]
  simp only [ByteArray.data_append, Array.toList_append, hheading]
  congr 1
  split
  · exact decodeLossy_lines s _
  · simp only [ByteArray.data_append, Array.toList_append, List.append_assoc]
    have hskipped : ∀ (levels : Nat) (before after : List UInt8),
        Text.decodeLossy (before ++ (s!"\n\t...\t(skipping {levels} levels)".toUTF8.data.toList ++
          after)) = Text.decodeLossy before ++
            ('\n' :: '\t' :: ((StackLine.skipped levels).text.toList ++ Text.decodeLossy after)) :=
      fun levels before after =>
        (Text.decodeLossy_append_text _ (by simp [toString]) before after).trans
          (by simp [StackLine.text, toString])
    rw [hskipped, decodeLossy_lines, written_append, written_cons]
    congr 1
    have hfirst := (decodeLossy_firstLines s [] shownFirst s.run.frames (by simp)).2
    rwa [Text.decodeLossy, List.append_nil, List.append_nil] at hfirst

end Decoded

end Lua.Traceback

end LuaShell
