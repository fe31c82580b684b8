import LuaShell.Proofs.Script.CallStack
import LuaShell.Proofs.Script.Leaving
import Mathlib

/-!
# Failures of commands in scripts

A command that fails in a script raises a text that was written for people, and the place of the
call is in the call stack.  But the place is sought at the beginning of the text as well, as if Lua
had put one there.  So the text is shown as it is, with the place of the first call of code, exactly
if it names no place itself (`Diagnostic.ofError_command`): names of files and texts of other
failures can look like places, and then the text is cut.

A text without any mark of a place names none, and a failure of a file that is executed has such a
text if the failure in that file has one and no name on the way holds a mark
(`Diagnostic.unmarked_executionFailed`).  So through any number of files the text is kept
(`CommandError.Nested.unmarked`).
-/

namespace LuaShell

open EngineError (under)

namespace Diagnostic

/-- A text names no place. -/
def Placeless (text : String) : Prop :=
  ∀ origin n rest, ¬ NamesPlace text origin n rest

/-- A diagnostic points to a place, or to none. -/
def At (d : Diagnostic) (place? : Option (String × Nat)) : Prop :=
  d.origin = place?.map Prod.fst ∧ d.line = place?.map Prod.snd

section Fields

variable (kind : FailureKind) (chunk source : String) {e : EngineError} {raw : String}
  {trace : Option String}

/-- A text without a place is the message, and the call stack says where. -/
theorem ofError_of_placeless (hflatten : flatten e = (raw, trace)) (hraw : Placeless raw) :
    let d := ofError kind e chunk source
    d.message = raw ∧ d.At (trace.bind ofTrace?) ∧ d.stackTrace = trace := by
  have hnone : ofMessage? raw = none := ofMessage?_eq_none_iff.mpr hraw
  cases hplace : trace.bind ofTrace? with
  | none => simp [ofError, hflatten, hnone, hplace, At]
  | some place => simp [ofError, hflatten, hnone, hplace, At]

/-- Of a text with a place what stands behind it is the message. -/
theorem ofError_of_namesPlace {origin rest : String} {n : Nat} (hflatten : flatten e = (raw, trace))
    (hraw : NamesPlace raw origin n rest) :
    let d := ofError kind e chunk source
    d.message = rest ∧ d.At (some (origin, n)) ∧ d.stackTrace = trace := by
  have hsome : ofMessage? raw = some (origin, n, rest) := ofMessage?_eq_some_iff.mpr hraw
  simp [ofError, hflatten, hsome, At]

end Fields

/-! ## Failures of commands -/

section Raised

variable {ls : List StackLine} {e : CommandError} (kind : FailureKind) (chunk source : String)

theorem flatten_command (trace : String) (traces : List String) (e : CommandError) :
    flatten (under (trace :: traces) (.command e)) = (e.message, some trace) := by
  rw [flatten_under]
  rfl

/-- A failure of a command whose text names no place is shown with that text, and points to the
first call of code in the outermost call stack. -/
theorem ofError_command_of_placeless (hplain : ∀ l ∈ ls, l.Plain) (traces : List String)
    (hplaceless : Placeless e.message) :
    let d := ofError kind (under (stack ls :: traces) (.command e)) chunk source
    d.message = e.message ∧ d.At (ls.findSome? StackLine.place?) ∧
      d.stackTrace = some (stack ls) := by
  have hall := ofError_of_placeless kind chunk source (flatten_command (stack ls) traces e)
    hplaceless
  rwa [Option.bind_some, ofTrace?_stack hplain] at hall

/-- The same for a hook that fails in a state of the interpreter. -/
theorem ofError_hook (s : Lua.State) (hplain : ∀ l ∈ Lua.Traceback.stackLines s, l.Plain)
    (hplaceless : Placeless e.message) :
    let d := ofError kind (.callback (Text.ofBytesLossy (Lua.Traceback.text s)) (.command e)) chunk
      source
    d.message = e.message ∧ d.At ((Lua.Traceback.stackLines s).findSome? StackLine.place?) := by
  intro d
  obtain ⟨hmessage, hat, -⟩ :=
    ofError_command_of_placeless kind chunk source hplain [] hplaceless
  rw [← Lua.Traceback.ofBytesLossy_text] at hmessage hat
  exact ⟨hmessage, hat⟩

end Raised

/-- A failure of a command that has passed through native functions is shown with the outermost call
stack. Its text is the message, and the first call of code in the call stack the place, exactly if
the text names no place; otherwise both are what the text says. -/
theorem ofError_command {ls : List StackLine} (hplain : ∀ l ∈ ls, l.Plain) (traces : List String)
    (e : CommandError) (kind : FailureKind) (chunk source : String) :
    let d := ofError kind (under (stack ls :: traces) (.command e)) chunk source
    d.stackTrace = some (stack ls) ∧
      (d.message = e.message ↔ Placeless e.message) ∧
      (Placeless e.message → d.At (ls.findSome? StackLine.place?)) ∧
      ∀ origin n rest, NamesPlace e.message origin n rest →
        d.message = rest ∧ d.At (some (origin, n)) := by
  intro d
  by_cases hplaceless : Placeless e.message
  · obtain ⟨hmessage, hat, htrace⟩ :=
      ofError_command_of_placeless kind chunk source hplain traces hplaceless
    exact ⟨htrace, iff_of_true hmessage hplaceless, fun _ => hat,
      fun origin n rest hnames => absurd hnames (hplaceless origin n rest)⟩
  · have hplaced := hplaceless
    simp only [Placeless, not_forall, not_not] at hplaced
    obtain ⟨origin, n, rest, hnames⟩ := hplaced
    obtain ⟨hmessage, hat, htrace⟩ := ofError_of_namesPlace kind chunk source
      (flatten_command (stack ls) traces e) hnames
    refine ⟨htrace, iff_of_false (fun h => hnames.ne_rest (hmessage.symm.trans h)) hplaceless,
      fun h => absurd h hplaceless, fun origin' n' rest' hnames' => ?_⟩
    -- A text names no more than one place.
    have hsame := (ofMessage?_eq_some_iff.mpr hnames).symm.trans
      (ofMessage?_eq_some_iff.mpr hnames')
    cases hsame
    exact ⟨hmessage, hat⟩

/-- A missing argument is shown as such, at the call; of a file that cannot be read and whose name
ends like a place only the reason is shown, at a place that is none. -/
theorem ofError_command_read :
    let ls : List StackLine := [.native "function 'read'", .code "main.lua" 2 "main chunk"]
    let missing : CommandError := .missingArgument "read" "filename"
    let unreadable : CommandError := .unreadable "job:1" (.system 2)
    let d := ofError .runtime (under [stack ls] (.command missing)) "main.lua" "x = 1\nread()"
    let d' := ofError .runtime (under [stack ls] (.command unreadable)) "main.lua"
      "x = 1\nread('job:1')"
    (∀ l ∈ ls, l.Plain) ∧ Placeless missing.message ∧ d.message = missing.message ∧
      d.At (some ("main.lua", 2)) ∧ ¬ Placeless unreadable.message ∧
      d'.message = "No such file or directory (os error 2)" ∧
      d'.At (some ("Cannot load file content of job", 1)) := by
  intro ls missing unreadable d d'
  have hnative : (StackLine.native "function 'read'").Plain :=
    show '\n' ∉ "function 'read'".toList by decide
  have hmark : ¬ Marked [':', ' ', 'i', 'n', ' '] "ain.lua".toList := by decide
  have hcode : (StackLine.code "main.lua" 2 "main chunk").Plain :=
    ⟨by decide, by decide, by decide, 'm', "ain.lua".toList, by decide, by decide, fun _ => hmark⟩
  have hplain : ∀ l ∈ ls, l.Plain := by
    simp only [ls, List.forall_mem_cons]
    exact ⟨hnative, hcode, by simp⟩
  have hmissing : Placeless missing.message := ofMessage?_eq_none_iff.mp (by decide)
  have hunreadable : NamesPlace unreadable.message "Cannot load file content of job" 1
      "No such file or directory (os error 2)" := ofMessage?_eq_some_iff.mp (by decide)
  obtain ⟨-, hmessage, hat, -⟩ := ofError_command hplain [] missing .runtime "main.lua"
    "x = 1\nread()"
  obtain ⟨-, -, -, hcut⟩ := ofError_command hplain [] unreadable .runtime "main.lua"
    "x = 1\nread('job:1')"
  obtain ⟨hmessage', hat'⟩ := hcut _ _ _ hunreadable
  exact ⟨hplain, hmissing, hmessage.mpr hmissing, hat hmissing, fun h => h _ _ _ hunreadable,
    hmessage', hat'⟩

/-- A file whose name ends in a colon and a number cannot be read: its name is taken for a place,
and the call in the second line of the script for nothing. -/
theorem ofError_unreadable_reworded :
    let e : CommandError := .unreadable "job:1" (.system 2)
    let trace := "stack traceback:\n\t[C]: in function 'read'\n\tmain.lua:2: in main chunk"
    let d := ofError .runtime (.callback trace (.command e)) "main.lua" "x = 1\nread('job:1')"
    e.message = "Cannot load file content of job:1: No such file or directory (os error 2)" ∧
      ofTrace? trace = some ("main.lua", 2) ∧
      d = ⟨.runtime, "No such file or directory (os error 2)",
        some "Cannot load file content of job", some 1, none, none, some trace⟩ ∧
      d.message ≠ e.message ∧ ¬ d.At (ofTrace? trace) := by
  intro e trace d
  have hmessage : e.message =
      "Cannot load file content of job:1: No such file or directory (os error 2)" := by decide
  have htrace : ofTrace? trace = some ("main.lua", 2) := by decide
  have hd : d = ⟨.runtime, "No such file or directory (os error 2)",
      some "Cannot load file content of job", some 1, none, none, some trace⟩ := by decide
  refine ⟨hmessage, htrace, hd, by rw [hd, hmessage]; decide, fun hat => ?_⟩
  rw [hd, htrace] at hat
  exact absurd hat.2 (by decide)

/-! ## Texts without marks -/

/-- A text holds no mark of a place. -/
def Unmarked (text : String) : Prop :=
  ¬ Marked [':', ' '] text.toList

theorem Unmarked.placeless {text : String} (h : Unmarked text) : Placeless text :=
  ofMessage?_eq_none_iff.mp <| ofMessage?_of_not_marked fun hmarked =>
    h (hmarked.of_part (List.takeWhile_prefix _).isInfix)

theorem not_marked_append_space {before after : List Char}
    (hbefore : ¬ Marked [':', ' '] (before ++ [' '])) (hafter : ¬ Marked [':', ' '] after) :
    ¬ Marked [':', ' '] (before ++ ' ' :: after) :=
  marked_append_space_iff.not.mpr (not_or.mpr ⟨hbefore, hafter⟩)

/-- Where a diagnostic is shown in one line, the line number stands before a space and not before a
colon. -/
theorem unmarked_display {d : Diagnostic} (hmessage : Unmarked d.message)
    (horigin : ∀ origin, d.origin = some origin → Unmarked origin) : Unmarked d.display := by
  unfold display
  split
  · next origin line ho hn =>
      have htext : (s!"{origin}:{line} - {d.message}").toList =
          (origin.toList ++ ':' :: Nat.toDigits 10 line) ++ ' ' ::
            (['-'] ++ ' ' :: d.message.toList) := by
        simp [toString]
      have hspace : ' ' ∉ ':' :: Nat.toDigits 10 line := fun hmem => by
        rcases List.mem_cons.mp hmem with hcolon | hdigit
        · exact absurd hcolon (by decide)
        · exact absurd (Text.isDigit_of_mem_toDigits hdigit) (by decide)
      have hlast : (origin.toList ++ ':' :: Nat.toDigits 10 line).getLast? ≠ some ':' := fun h => by
        rw [List.getLast?_append_of_ne_nil _ (by simp), List.getLast?_cons_of_ne_nil
          Nat.toDigits_ne_nil] at h
        exact absurd (Text.isDigit_of_mem_toDigits (List.mem_of_getLast? h)) (by decide)
      rw [Unmarked, htext]
      refine not_marked_append_space (fun hmarked => ?_)
        (not_marked_append_space (by decide) hmessage)
      exact horigin origin ho ((hmarked.of_concat_space hlast).of_append rfl hspace)
  · exact hmessage

/-- What is said of a file that failed holds a mark only if the name of the file with the colon
behind it does, or the reason. -/
theorem unmarked_executionFailed {path reason : String} (hpath : Unmarked (path ++ ": "))
    (hreason : Unmarked reason) : Unmarked (CommandError.executionFailed path reason).message := by
  have htext : (CommandError.executionFailed path reason).message.toList =
      "Failure to execute".toList ++ ' ' :: ((path.toList ++ [':']) ++ ' ' :: reason.toList) := by
    show (s!"Failure to execute {path}: {reason}").toList = _
    simp [toString]
  have hname : (path ++ ": ").toList = (path.toList ++ [':']) ++ [' '] := by simp
  rw [Unmarked, hname] at hpath
  rw [Unmarked, htext]
  exact not_marked_append_space (by decide) (not_marked_append_space hpath hreason)

end Diagnostic

/-! ## Failures of executed files -/

namespace CommandError

open Diagnostic (StackLine Unmarked stack)

/-- A failure without a mark in its text, or that of a file in which such a failure was raised and
not caught, with no mark in the names of files and chunks, and so on. -/
inductive Nested : CommandError → Prop where
  | raised {e : CommandError} (hmessage : Unmarked e.message) : Nested e
  | executed {e e' : CommandError} {path source : String} {ls : List StackLine}
      {traces : List String} (h : Nested e) (hpath : Unmarked (path ++ ": "))
      (hplain : ∀ l ∈ ls, l.Plain)
      (hchunks : ∀ l ∈ ls, ∀ place, l.place? = some place → Unmarked place.1)
      (hafter : RunCommand.afterScript path (.error (.failed
        (.ofError .runtime (under (stack ls :: traces) (.command e)) path source))) =
          .error (.command e')) : Nested e'

theorem Nested.unmarked {e : CommandError} (h : Nested e) : Unmarked e.message := by
  -- From the failure that was raised first to that of the outermost file.
  induction h with
  | raised hmessage => exact hmessage
  | @executed e e' path source ls traces _ hpath hplain hchunks hafter ih =>
      cases hafter
      obtain ⟨hmessage, ⟨horigin, -⟩, -⟩ := Diagnostic.ofError_command_of_placeless
        .runtime path source hplain traces ih.placeless
      refine Diagnostic.unmarked_executionFailed hpath (Diagnostic.unmarked_display ?_ ?_)
      · rwa [hmessage]
      · intro origin ho
        rw [horigin] at ho
        obtain ⟨place, hplace, rfl⟩ := Option.map_eq_some_iff.mp ho
        obtain ⟨l, hl, hfound⟩ := List.exists_of_findSome?_eq_some hplace
        exact hchunks l hl place hfound

end CommandError

end LuaShell
