import LuaShell.Proofs.Script.CallStack
import LuaShell.Proofs.Script.NativeFailure
import Mathlib

/-!
# The first frame of a file

The place of a failure that has passed through native functions is sought in the outermost call
stack if its message names none.  Here the call stack is any text with the heading and frames of
the known forms below it (`TraceFrame`), not only one that the interpreter has written: the
remark on calls that are left out has several wordings, and lines may have any number of digits.

One frame is read as its place (`TraceFrame.Regular.frame?_text`), so the place of the failure is
that of the first frame of a file (`ofError_first_frame`).  There is none if no frame is of a file,
or if the number of the first one has more than sixty-four bits: later frames are not asked then.  A
number is read only behind a name.  So frames of a file without a name are passed over like those of
native functions (`ofError_unnamed_file`).

A failure of a run may carry another call stack in its text.  Its message ends before that; any
other message is kept as it is (`flatten_fst`).
-/

namespace LuaShell

/-- The text of a failure below all wrappings by native functions. -/
def EngineError.innermost : EngineError → String
  | .compile message _ => message
  | .runtime message => message
  | .callback _ cause => innermost cause
  | .external message => message
  | .command cause => cause.message
  | e => e.message

namespace Diagnostic

open EngineError (innermost marker)

/-! ## Frames -/

/-- A mark begins with a colon, so none begins before the first one. -/
theorem Marked.of_colonless {tail before after : List Char} (hcolon : ':' ∉ before)
    (h : Marked (':' :: tail) (before ++ after)) : Marked (':' :: tail) after := by
  induction before with
  | nil => exact h
  | cons c before ih =>
      rw [List.mem_cons, not_or] at hcolon
      rcases marked_cons_iff.mp h with hhere | hlater
      · obtain ⟨digits, rest, -, -, hwhole⟩ := isSome_numberAt?_iff.mp hhere
        exact absurd (List.cons_eq_cons.mp hwhole).1.symm hcolon.1
      · exact ih hcolon.2 hlater

/-- A frame of a call stack. -/
inductive TraceFrame where
  | native (name : String)
  /-- A call of code that is named by its source. -/
  | source (code : String) (line : Nat) (name : String)
  /-- Calls that were made in place of their callers. -/
  | tail
  /-- Calls that are left out, and a remark on them. -/
  | skipped (remark : String)
  | file (path : String) (line : Nat) (name : String)

namespace TraceFrame

open StackLine (mark frame?_code frame?_of_head frame?_of_not_marked)

def text : TraceFrame → String
  | .native name => (StackLine.native name).text
  | .source code line name => (StackLine.code ("[string \"" ++ code ++ "\"]") line name).text
  | .tail => StackLine.tail.text
  | .skipped remark => "..." ++ remark
  | .file path line name => (StackLine.code path line name).text

/-- The place of a frame of a file that has a name. -/
def place? : TraceFrame → Option (String × Nat)
  | .file path line _ => if path = "" then none else some (path, line)
  | _ => none

/-- What does not begin with a blank or a bracket, and holds no line feed and no mark, can name a
file. -/
def NamesFile (path : String) : Prop :=
  (∀ c ∈ path.toList.head?, Text.isBlank c = false ∧ c ≠ '[') ∧ '\n' ∉ path.toList ∧
    ¬ Marked mark path.toList

/-- The parts of a frame can be told apart: they hold no line feed, and there is no mark in a remark,
in the name of a file, and behind a name that is missing. -/
def Regular : TraceFrame → Prop
  | .native name => '\n' ∉ name.toList
  | .source code _ name => '\n' ∉ code.toList ∧ '\n' ∉ name.toList
  | .tail => True
  | .skipped remark => '\n' ∉ remark.toList ∧ ¬ Marked mark remark.toList
  | .file path _ name => NamesFile path ∧ '\n' ∉ name.toList ∧
      (path = "" → ¬ Marked mark name.toList)

variable {f : TraceFrame}

theorem Regular.feedless (h : f.Regular) : '\n' ∉ f.text.toList := by
  have hdigits : ∀ n, '\n' ∉ Nat.toDigits 10 n := fun n hmem =>
    absurd (Text.isDigit_of_mem_toDigits hmem) (by decide)
  cases f with
  | native name =>
      have hname : '\n' ∉ name.toList := h
      simp [TraceFrame.text, StackLine.text, toString, hname]
  | source code line name =>
      obtain ⟨hcode, hname⟩ := h
      simp [TraceFrame.text, StackLine.text, toString, hcode, hname, hdigits]
  | tail => decide
  | skipped remark =>
      obtain ⟨hremark, -⟩ := h
      simp [TraceFrame.text, hremark]
  | file path line name =>
      obtain ⟨⟨-, hpath, -⟩, hname, -⟩ := h
      simp [TraceFrame.text, StackLine.text, toString, hpath, hname, hdigits]

/-- A number and what stands behind it are no name and a number. -/
theorem frame?_unnamed (line : Nat) {name : String} (hname : ¬ Marked mark name.toList) :
    frame? ('\t' :: (StackLine.code "" line name).text.toList) = none := by
  have htext : (StackLine.code "" line name).text.toList =
      ':' :: (Nat.toDigits 10 line ++ ':' :: ([' ', 'i', 'n', ' '] ++ name.toList)) := by
    simp [StackLine.text, toString]
  have hdigits : ':' ∉ Nat.toDigits 10 line := fun hmem =>
    absurd (Text.isDigit_of_mem_toDigits hmem) (by decide)
  have hbehind : ¬ Marked mark
      (Nat.toDigits 10 line ++ ':' :: ([' ', 'i', 'n', ' '] ++ name.toList)) := by
    intro hmarked
    -- No number begins behind the second colon.
    rcases marked_cons_iff.mp (hmarked.of_colonless hdigits) with hnumber | hlater
    · simp [numberAt?, show Text.isDigit ' ' = false by decide] at hnumber
    · exact hname (hlater.of_colonless (by decide))
  have hnone : located? mark
      (Nat.toDigits 10 line ++ ':' :: ([' ', 'i', 'n', ' '] ++ name.toList)) = none :=
    (located?_eq_none_iff (by decide)).mpr fun hmarked =>
      hbehind (hmarked.of_part (List.takeWhile_prefix _).isInfix)
  rw [htext, frame?_of_head (by decide), if_neg (by decide), hnone]
  rfl

/-- A frame is read as its place. -/
theorem Regular.frame?_text (h : f.Regular) :
    frame? ('\t' :: f.text.toList) =
      f.place?.map fun (o, n) => (o.toList, Nat.toDigits 10 n) := by
  cases f with
  | native name =>
      have hplain : (StackLine.native name).Plain := h
      exact hplain.frame?_text
  | source code line name =>
      obtain ⟨hcode, -⟩ := h
      have hchunk : ("[string \"" ++ code ++ "\"]").toList =
          '[' :: ("string \"" ++ code ++ "\"]").toList := by simp
      have hread := frame?_code hchunk (by decide) (by simp [hcode]) (fun hne => absurd rfl hne)
        line name
      rw [TraceFrame.text, hread, StackLine.place?, hchunk]
      rfl
  | tail => decide
  | skipped remark =>
      obtain ⟨-, hremark⟩ := h
      have htext : (TraceFrame.skipped remark).text.toList = ['.', '.', '.'] ++ remark.toList := by
        simp [TraceFrame.text]
      rw [htext]
      exact frame?_of_not_marked fun hmarked => hremark (hmarked.of_colonless (by decide))
  | file path line name =>
      obtain ⟨⟨hhead, hfeed, hmark⟩, -, hunnamed⟩ := h
      rw [TraceFrame.text, TraceFrame.place?]
      by_cases hempty : path = ""
      · subst hempty
        rw [frame?_unnamed line (hunnamed rfl)]
        rfl
      · obtain ⟨c, cs, hcs⟩ := List.exists_cons_of_ne_nil (String.toList_eq_nil_iff.not.mpr hempty)
        obtain ⟨hblank, hbracket⟩ := hhead c (by rw [hcs]; exact rfl)
        have hlater : ¬ Marked mark cs := fun hmarked => hmark (hcs ▸ hmarked.of_tail)
        rw [frame?_code hcs hblank hfeed (fun _ => hlater) line name, StackLine.place?, hcs,
          if_neg (by simpa using hbracket), if_neg hempty]

end TraceFrame

/-! ## Messages -/

/-- A text begins with a place in its first line, whether or not the number is one of a line. -/
def BeginsWithPlace (text : String) : Prop :=
  ∃ origin digits rest : List Char, '\n' ∉ origin ∧ digits ≠ [] ∧
    (∀ c ∈ digits, c.isDigit = true) ∧ text.toList = origin ++ ':' :: (digits ++ ':' :: ' ' :: rest)

/-- A place stands before the first line feed, and it holds a colon. -/
theorem BeginsWithPlace.colon_mem {text : String} (h : BeginsWithPlace text) :
    ':' ∈ text.toList.takeWhile (· ≠ '\n') := by
  obtain ⟨origin, digits, rest, horigin, -, -, hwhole⟩ := h
  have hline : ∀ c ∈ origin, decide (c ≠ '\n') = true := fun c hc =>
    decide_eq_true fun hfeed => horigin (hfeed ▸ hc)
  rw [hwhole, List.takeWhile_append_of_pos hline]
  simp

theorem isDigit_of_lineNumber? {digits : List Char} {n : Nat} (h : lineNumber? digits = some n) :
    ∀ c ∈ digits, c.isDigit = true := by
  obtain ⟨hread, -⟩ := Option.filter_eq_some_iff.mp h
  rw [Text.natOfDigits?] at hread
  split at hread
  · cases hread
  · next hall =>
      rw [Bool.not_eq_true, Bool.or_eq_false_iff, Bool.not_eq_false'] at hall
      exact List.all_eq_true.mp hall.2

/-- A text names no place if what it is the beginning of does not begin with one. -/
theorem placeless_of_begins {text whole : String} (hbegins : text.toList <+: whole.toList)
    (hwhole : ¬ BeginsWithPlace whole) : Placeless text := by
  rintro origin n rest ⟨digits, hlocated, hnumber⟩
  obtain ⟨more, hmore⟩ := hbegins
  refine hwhole ⟨origin.toList, digits, rest.toList ++ more, hlocated.line, hlocated.some_digits,
    isDigit_of_lineNumber? hnumber, ?_⟩
  rw [← hmore, hlocated.whole]
  simp

theorem append_of_splitAt? {part cs before after : List Char}
    (h : EngineError.splitAt? part cs = some (before, after)) : cs = before ++ after := by
  induction cs generalizing before with
  | nil =>
      rw [EngineError.splitAt?] at h
      split at h
      · cases h
        rfl
      · cases h
  | cons c cs ih =>
      rw [EngineError.splitAt?] at h
      split at h
      · cases h
        rfl
      · obtain ⟨⟨between, behind⟩, hlater, heq⟩ := Option.map_eq_some_iff.mp h
        cases heq
        rw [ih hlater]
        rfl

/-- A text is cut somewhere, and nowhere if it holds no heading. -/
theorem splitTrace_fst (text : String) :
    (splitTrace text).1.toList <+: text.toList ∧
      (¬ marker.toList <:+: text.toList → (splitTrace text).1 = text) := by
  rw [splitTrace]
  split
  · next before after hsplit =>
      refine ⟨?_, fun hnone => ?_⟩
      · rw [String.toList_ofList, append_of_splitAt? hsplit]
        exact (List.rdropWhile_prefix Text.isBlank before).trans (List.prefix_append before after)
      · rw [EngineError.splitAt?_eq_none_iff.mpr hnone] at hsplit
        cases hsplit
  · exact ⟨List.prefix_rfl, fun _ => rfl⟩

/-- The message of a failure is the beginning of its innermost text, and all of that if it holds no
call stack. -/
theorem flatten_fst (e : EngineError) :
    (flatten e).1.toList <+: (innermost e).toList ∧
      (¬ marker.toList <:+: (innermost e).toList → (flatten e).1 = innermost e) := by
  -- Down to what no native function has wrapped.
  induction e with
  | callback traceback cause ih => exact ih
  | compile message incomplete => exact ⟨List.prefix_rfl, fun _ => rfl⟩
  | external message => exact ⟨List.prefix_rfl, fun _ => rfl⟩
  | command cause => exact ⟨List.prefix_rfl, fun _ => rfl⟩
  | runtime message => exact splitTrace_fst message
  | memory | conversion | context => exact splitTrace_fst _

/-! ## Places of wrapped failures -/

/-- The message of a failure that was wrapped with a call stack is kept, if it does not begin with a
place, and the place is that of the first frame of a file. -/
theorem ofError_first_frame {frames : List TraceFrame} (hframes : ∀ f ∈ frames, f.Regular)
    {cause : EngineError} (hcause : ¬ BeginsWithPlace (innermost cause)) (kind : FailureKind)
    (chunk source : String) :
    let trace := headed (frames.map TraceFrame.text)
    let d := ofError kind (.callback trace cause) chunk source
    d.message = (flatten cause).1 ∧
      (¬ marker.toList <:+: (innermost cause).toList → d.message = innermost cause) ∧
      d.At ((frames.findSome? TraceFrame.place?).filter fun place => place.2 < UInt64.size) ∧
      d.stackTrace = some trace := by
  intro trace d
  obtain ⟨hbegins, hwhole⟩ := flatten_fst cause
  have hflatten : flatten (.callback trace cause) = ((flatten cause).1, some trace) := rfl
  obtain ⟨hmessage, hat, htrace⟩ := ofError_of_placeless kind chunk source hflatten
    (placeless_of_begins hbegins hcause)
  have hplace : ofTrace? trace =
      (frames.findSome? TraceFrame.place?).filter fun place => place.2 < UInt64.size :=
    ofTrace?_headed (fun f hf => (hframes f hf).feedless) fun f hf => (hframes f hf).frame?_text
  rw [Option.bind_some, hplace] at hat
  exact ⟨hmessage, fun hnone => hmessage.trans (hwhole hnone), hat, htrace⟩

/-- Native functions, calls that are left out and a chunk named by its source stand above the frame
that is found. -/
theorem ofError_first_frame_read :
    let frames : List TraceFrame := [.native "function 'read'", .source "x = 1 ..." 4 "local 'f'",
      .skipped "\t(skipping 3 levels)", .tail, .file "main.lua" 3 "function <main.lua:1>",
      .file "init.lua" 9 "main chunk"]
    let cause : EngineError := .runtime "Bad parameters passed to read"
    let e : EngineError := .callback (headed (frames.map TraceFrame.text)) cause
    (∀ f ∈ frames, f.Regular) ∧ ¬ BeginsWithPlace (innermost cause) ∧
      (ofError .runtime e "main.lua" "read()").message = innermost cause ∧
      (ofError .runtime e "main.lua" "read()").At (some ("main.lua", 3)) := by
  intro frames cause e
  have hmain : TraceFrame.NamesFile "main.lua" :=
    ⟨by simp; decide, by decide, fun h => absurd h.colon_mem (by decide)⟩
  have hinit : TraceFrame.NamesFile "init.lua" :=
    ⟨by simp; decide, by decide, fun h => absurd h.colon_mem (by decide)⟩
  have hframes : ∀ f ∈ frames, f.Regular := by
    simp only [frames, List.forall_mem_cons]
    exact ⟨show '\n' ∉ _ by decide, ⟨by decide, by decide⟩,
      ⟨by decide, fun h => absurd h.colon_mem (by decide)⟩, trivial,
      ⟨hmain, by decide, fun h => absurd h (by decide)⟩,
      ⟨hinit, by decide, fun h => absurd h (by decide)⟩, by simp⟩
  have hcause : ¬ BeginsWithPlace (innermost cause) := fun h => absurd h.colon_mem (by decide)
  have hwhole : ¬ marker.toList <:+: (innermost cause).toList := by decide
  have hfound : ((frames.findSome? TraceFrame.place?).filter fun place => place.2 < UInt64.size) =
      some ("main.lua", 3) := by decide
  obtain ⟨-, hmessage, hat, -⟩ := ofError_first_frame hframes hcause .runtime "main.lua" "read()"
  rw [hfound] at hat
  exact ⟨hframes, hcause, hmessage hwhole, hat⟩

/-- A frame of a file without a name is passed over, although nothing in its empty name keeps it from
naming a file; and a message ends before a call stack in its text. -/
theorem ofError_unnamed_file :
    let frames : List TraceFrame := [.native "function 'read'", .file "" 2 "main chunk",
      .file "main.lua" 7 "main chunk"]
    let cause : EngineError := .runtime "boom"
    let raised : EngineError := .runtime "boom\nstack traceback:\n\t[C]: in ?"
    let trace := headed (frames.map TraceFrame.text)
    let d := ofError .runtime (.callback trace cause) "main.lua" "x = 1\n"
    let d' := ofError .runtime (.callback trace raised) "main.lua" "x = 1\n"
    TraceFrame.NamesFile "" ∧ trace = "stack traceback:\n\t[C]: in function 'read'" ++
        "\n\t:2: in main chunk\n\tmain.lua:7: in main chunk" ∧
      ¬ BeginsWithPlace (innermost cause) ∧ d.At (some ("main.lua", 7)) ∧ ¬ d.At (some ("", 2)) ∧
      ¬ BeginsWithPlace (innermost raised) ∧ d'.message = "boom" ∧ d'.message ≠ innermost raised := by
  intro frames cause raised trace d d'
  have hd : d = ⟨.runtime, "boom", some "main.lua", some 7, none, none, some trace⟩ := by decide
  have hmessage : d'.message = "boom" := by decide
  have hempty : TraceFrame.NamesFile "" :=
    ⟨by simp, by decide, fun h => absurd h.colon_mem (by decide)⟩
  refine ⟨hempty, by decide, fun h => absurd h.colon_mem (by decide), ?_, fun hat => ?_,
    fun h => absurd h.colon_mem (by decide), hmessage, by rw [hmessage]; decide⟩
  · rw [hd]
    exact ⟨rfl, rfl⟩
  · rw [hd] at hat
    exact absurd hat.2 (by decide)

end Diagnostic

end LuaShell
