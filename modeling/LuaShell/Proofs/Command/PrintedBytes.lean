import LuaShell.Proofs.Command.FileContract
import LuaShell.Proofs.Path.Textual
import Mathlib

/-!
# The bytes that are printed

A script asks the global `tostring` for the bytes of a value.  `print` does so too, but for strings,
which it takes as they are, and it makes a text of what it has before it writes it.  So each value
has the bytes that it is printed as (`Value.printedAs`): in a string every ill-formed part is a
replacement character, and of any other value whose bytes are no text only the kind is shown.

Hence the answers of `tostring` are printed exactly if each of them is a text, unless strings have
been given other bytes than their own (`print_bytes`).  A file is read as it is, and printed as it is
exactly if its bytes are a text.
-/

namespace LuaShell

open Lua (Value)

/-- The bytes that a value is printed as if `tostring` answers some bytes about it. -/
def Lua.Value.printedAs (v : Value) (answer : List UInt8) : List UInt8 :=
  match v with
  | .str bytes => Text.toBytes (Text.ofBytesLossy bytes)
  | v => if Text.IsText answer then answer else Text.toBytes s!"<{v.kindName}>"

theorem Lua.Value.printedAs_of_other {v : Value} (hv : ∀ bytes, v ≠ .str bytes)
    (answer : List UInt8) : v.printedAs answer =
      if Text.IsText answer then answer else Text.toBytes s!"<{v.kindName}>" := by
  cases v with
  | str bytes => exact absurd rfl (hv bytes)
  | _ => rfl

/-- An answer is taken for a text exactly if it is one. -/
theorem Lua.Value.asText?_str_cases (answer : List UInt8) :
    (∃ text, Text.toBytes text = answer ∧ Value.asText? (.str ⟨answer.toArray⟩) = .ok text) ∨
      (¬ Text.IsText answer ∧ ∃ e, Value.asText? (.str ⟨answer.toArray⟩) = .error e) := by
  cases hread : Text.ofBytes? ⟨answer.toArray⟩ with
  | ok text =>
      have hbytes := congrArg (·.data.toList) (Text.ofBytes?_eq_ok_iff.mp hread)
      exact .inl ⟨text, hbytes.symm, by rw [asText?, hread]⟩
  | error e =>
      refine .inr ⟨?_, _, by rw [asText?, hread]⟩
      rintro ⟨text, rfl⟩
      cases hread.symm.trans (Text.ofBytes?_eq_ok_iff.mpr rfl)

theorem Lua.Value.isText_printedAs (v : Value) (answer : List UInt8) :
    Text.IsText (v.printedAs answer) := by
  unfold printedAs
  split
  · exact Text.isText_toBytes _
  · split
    · assumption
    · exact Text.isText_toBytes _

/-- A line of pieces with semicolons between them. -/
def printedLine (pieces : List (List UInt8)) : ByteArray :=
  ⟨((Text.toBytes ";").intercalate pieces ++ Text.toBytes "\n").toArray⟩

namespace Engine

variable {ε χ : Type} {E : Engine ε χ}

/-- On a machine the global `tostring` answers some bytes about a value, and leaves another
machine. -/
def Tostring (E : Engine ε χ) (v : Value) (m : Machine ε) (answer : List UInt8)
    (m' : Machine ε) : Prop :=
  ∃ id found results, E.getGlobal "tostring" m = (.ok (.func id), found) ∧
    E.call (.func id) [v] found = (.ok results, m') ∧
    results.head? = some (.str ⟨answer.toArray⟩)

/-- What `tostring` answers about some values when they have their turns.  About a string it would
answer that; it is not asked, and so the machine is the same for the next value. -/
inductive Tostrings (E : Engine ε χ) :
    List Value → Machine ε → List (List UInt8) → Machine ε → Prop
  | nil (m : Machine ε) : Tostrings E [] m [] m
  | string {bytes : ByteArray} {vs : List Value} {m asked m' : Machine ε} {answer : List UInt8}
      {answers : List (List UInt8)} (hanswer : E.Tostring (.str bytes) m answer asked)
      (hrest : Tostrings E vs m answers m') :
      Tostrings E (.str bytes :: vs) m (answer :: answers) m'
  | other {v : Value} {vs : List Value} {m asked m' : Machine ε} {answer : List UInt8}
      {answers : List (List UInt8)} (hv : ∀ bytes, v ≠ .str bytes)
      (hanswer : E.Tostring v m answer asked) (hrest : Tostrings E vs asked answers m') :
      Tostrings E (v :: vs) m (answer :: answers) m'

theorem displayValue_of_tostring {v : Value} {m m' : Machine ε} {answer : List UInt8}
    (hv : ∀ bytes, v ≠ .str bytes) (hanswer : E.Tostring v m answer m') :
    ∃ text, E.displayValue v m = (text, m') ∧ Text.toBytes text = v.printedAs answer := by
  obtain ⟨id, found, results, hglobal, hcall, hresult⟩ := hanswer
  have hdisplay : E.displayValue v m =
      (((results.head?.getD .nil).asText?.toOption).getD s!"<{v.kindName}>", m') := by
    cases v with
    | str bytes => exact absurd rfl (hv bytes)
    | _ =>
        simp only [displayValue, hglobal, hcall]
        cases (results.head?.getD .nil).asText? <;> rfl
  rw [hdisplay, hresult, Option.getD_some, Value.printedAs_of_other hv]
  rcases Value.asText?_str_cases answer with ⟨text, rfl, hread⟩ | ⟨htext, e, hread⟩
  · rw [hread, if_pos (Text.isText_toBytes text)]
    exact ⟨text, rfl, rfl⟩
  · rw [hread, if_neg htext]
    exact ⟨_, rfl, rfl⟩

theorem displayEach_of_tostrings {values : List Value} {m m' : Machine ε}
    {answers : List (List UInt8)} (hanswers : E.Tostrings values m answers m') :
    ∃ texts, E.displayEach values m = (texts, m') ∧
      texts.map Text.toBytes = List.zipWith Value.printedAs values answers := by
  induction hanswers with
  | nil m => exact ⟨[], rfl, rfl⟩
  | @string bytes vs m asked m' answer answers hanswer hrest ih =>
      -- The machine is left as it is, whatever `tostring` would do to it.
      obtain ⟨texts, heach, htexts⟩ := ih
      refine ⟨Text.ofBytesLossy bytes :: texts, ?_, ?_⟩
      · simp only [displayEach, displayValue, heach]
      · rw [List.map_cons, htexts]
        rfl
  | @other v vs m asked m' answer answers hv hanswer hrest ih =>
      obtain ⟨text, hfirst, htext⟩ := displayValue_of_tostring hv hanswer
      obtain ⟨texts, heach, htexts⟩ := ih
      refine ⟨text :: texts, ?_, ?_⟩
      · simp only [displayEach, hfirst, heach]
      · rw [List.map_cons, htexts, htext]
        rfl

/-- Answers that are texts are printed as they are, if strings have their own bytes. -/
theorem Tostrings.printedAs {values : List Value} {m m' : Machine ε} {answers : List (List UInt8)}
    (hanswers : E.Tostrings values m answers m')
    (hown : ∀ bytes answer, (.str bytes, answer) ∈ values.zip answers →
      answer = bytes.data.toList)
    (htext : ∀ answer ∈ answers, Text.IsText answer) :
    List.zipWith Value.printedAs values answers = answers := by
  induction hanswers with
  | nil m => rfl
  | @string bytes vs m asked m' answer answers hanswer hrest ih =>
      rw [List.forall_mem_cons] at htext
      have hrest := ih (fun b a hmem => hown b a (List.mem_cons_of_mem _ hmem)) htext.2
      obtain rfl : answer = bytes.data.toList := hown bytes answer List.mem_cons_self
      rw [List.zipWith_cons_cons, hrest]
      exact congrArg (· :: answers) (Text.toBytes_decodeLossy_iff.mpr htext.1)
  | @other v vs m asked m' answer answers hv hanswer hrest ih =>
      rw [List.forall_mem_cons] at htext
      have hrest := ih (fun b a hmem => hown b a (List.mem_cons_of_mem _ hmem)) htext.2
      have hfirst : v.printedAs answer = answer := by
        rw [Value.printedAs_of_other hv, if_pos htext.1]
      rw [List.zipWith_cons_cons, hrest, hfirst]

/-- An engine with the global `tostring`, which answers what is given, and writes a line before it
does so. -/
def answering (answer : Value → ByteArray) : Engine Nat String :=
  { Engine.idle with
    getGlobal := fun name m => (.ok (if name = "tostring" then .func 0 else .nil), m)
    call := fun f arguments m => match f, arguments with
      | .func 0, [v] => (.ok [.str (answer v)], m.mapHost (·.printLine "asked"))
      | _, _ => (.error (.runtime "attempt to call a nil value"), m) }

end Engine

/-! ## Lines -/

theorem Text.isText_separated_iff {pieces : List (List UInt8)} :
    IsText ((toBytes ";").intercalate pieces) ↔ ∀ piece ∈ pieces, IsText piece :=
  isText_intercalate_iff (by decide)

theorem printedLine_inj {pieces pieces' : List (List UInt8)} :
    printedLine pieces = printedLine pieces' ↔
      (Text.toBytes ";").intercalate pieces = (Text.toBytes ";").intercalate pieces' := by
  simp [printedLine]

theorem printedLine_texts (texts : List String) :
    (";".intercalate texts ++ "\n").toUTF8 = printedLine (texts.map Text.toBytes) := by
  refine ByteArray.ext (Array.toList_inj.mp ?_)
  rw [printedLine, ← Text.toBytes_intercalate, ← Text.toBytes_append]
  rfl

namespace Host

theorem writeBytes_inj {h : Host} {bytes bytes' : ByteArray} :
    h.writeBytes bytes = h.writeBytes bytes' ↔ bytes = bytes' := by
  constructor
  · intro hsame
    have houtput : h.output ++ bytes = h.output ++ bytes' := congrArg Host.output hsame
    exact (ByteArray.append_right_inj _).mp houtput
  · rintro rfl
    rfl

end Host

namespace GeneralCommand

variable {ε χ : Type} {E : Engine ε χ} {m m' : Machine ε}

/-- The answer of a command that writes some bytes and answers no values. -/
def wrote (m : Machine ε) (bytes : ByteArray) : Answer ε (List Value) :=
  (.ok [], m.mapHost (·.writeBytes bytes))

theorem wrote_inj {bytes bytes' : ByteArray} : wrote m bytes = wrote m bytes' ↔ bytes = bytes' := by
  rw [wrote, wrote, Prod.mk.injEq, and_iff_right rfl, Machine.mapHost, Machine.mapHost,
    Machine.mk.injEq, and_iff_left rfl, Host.writeBytes_inj]

theorem print_of_tostrings {values : List Value} {answers : List (List UInt8)}
    (hanswers : E.Tostrings values m answers m') :
    Command.print.invoke E values m =
      wrote m' (printedLine (List.zipWith Value.printedAs values answers)) := by
  obtain ⟨texts, heach, htexts⟩ := Engine.displayEach_of_tostrings hanswers
  have hdisplay : E.displayValues ";" values m = (";".intercalate texts, m') := by
    simp only [Engine.displayValues, heach]
  simp only [Command.invoke, print, hdisplay]
  rw [← htexts, ← printedLine_texts]
  rfl

/-- A line that is printed is a text. -/
theorem isText_of_print {values : List Value} {answers : List (List UInt8)}
    (hanswers : E.Tostrings values m answers m')
    (hexact : Command.print.invoke E values m = wrote m' (printedLine answers)) :
    ∀ answer ∈ answers, Text.IsText answer := by
  rw [print_of_tostrings hanswers, wrote_inj, printedLine_inj] at hexact
  rw [← Text.isText_separated_iff, ← hexact, Text.isText_separated_iff]
  intro piece hpiece
  obtain ⟨i, hi, rfl⟩ := List.mem_iff_getElem.mp hpiece
  rw [List.getElem_zipWith]
  exact Value.isText_printedAs _ _

theorem print_string (E : Engine ε χ) (bytes : ByteArray) (m : Machine ε) :
    Command.print.invoke E [.str bytes] m =
      wrote m (printedLine [Text.toBytes (Text.ofBytesLossy bytes)]) := by
  have hline := printedLine_texts [Text.ofBytesLossy bytes]
  rw [String.intercalate_singleton, List.map_singleton] at hline
  rw [← hline]
  simp only [Command.invoke, print, Engine.displayValues, Engine.displayEach, Engine.displayValue,
    String.intercalate_singleton]
  rfl

theorem read_of_readFile {v : Value} {name : String} {bytes : ByteArray}
    (hname : Arguments.textOf? v = some name)
    (hread : m.host.files.readFile (m.host.resolve name) = .ok bytes) :
    Command.read.invoke E [v] m = (.ok [.str bytes], m) := by
  have hstring : (Arguments.mk "read" [v]).string 0 "filename" = .ok name :=
    Arguments.string_of_text? hname
  simp [Command.invoke, Command.onHost, read, hstring, hread]

/-- Whatever `tostring` answers about some values, each of them is printed as the bytes that it is
printed as, with semicolons in between, and nothing is raised. The answers themselves are printed
only if all of them are texts, and then they are, as long as the answer about each string is the
string itself. A file is read as it is, and what was read is printed as it is exactly if it is a
text. -/
theorem print_bytes (E : Engine ε χ) :
    (∀ {values : List Value} {m m' : Machine ε} {answers : List (List UInt8)},
      E.Tostrings values m answers m' →
      let printed := Command.print.invoke E values m
      printed = wrote m' (printedLine (List.zipWith Value.printedAs values answers)) ∧
      (printed = wrote m' (printedLine answers) → ∀ answer ∈ answers, Text.IsText answer) ∧
      ((∀ bytes answer, (.str bytes, answer) ∈ values.zip answers →
          answer = bytes.data.toList) →
        (∀ answer ∈ answers, Text.IsText answer) → printed = wrote m' (printedLine answers))) ∧
    (∀ {m : Machine ε} {v : Value} {name : String} {bytes : ByteArray},
      Arguments.textOf? v = some name →
      m.host.files.readFile (m.host.resolve name) = .ok bytes →
      Command.read.invoke E [v] m = (.ok [.str bytes], m) ∧
      (Command.print.invoke E [.str bytes] m = wrote m (bytes ++ "\n".toUTF8) ↔
        Text.IsText bytes.data.toList)) := by
  refine ⟨fun {values m m' answers} hanswers => ?_, fun {m v name bytes} hname hread => ?_⟩
  · refine ⟨print_of_tostrings hanswers, isText_of_print hanswers, fun hown htext => ?_⟩
    rw [print_of_tostrings hanswers, hanswers.printedAs hown htext]
  · have hline : bytes ++ "\n".toUTF8 = printedLine [bytes.data.toList] := by
      refine ByteArray.ext (Array.toList_inj.mp ?_)
      simp [printedLine, Text.toBytes]
    refine ⟨read_of_readFile hname hread, ?_⟩
    rw [print_string, wrote_inj, hline, printedLine_inj, List.intercalate_singleton,
      List.intercalate_singleton]
    exact Text.toBytes_decodeLossy_iff

/-- A table with a text of its own is printed behind what it has written when it was asked, and a
string without having been asked. -/
theorem print_bytes_with_metamethod :
    let E := Engine.answering fun
      | .table _ => "\x7bä\x7d".toUTF8
      | v => v.rawText
    let fs : FileSystem :=
      ⟨.dir [(Text.toBytes "f", .file 0)], #[⟨"é\x00".toUTF8, File.defaultMode⟩], none⟩
    let h : Host := ⟨fs, [], ⟨Path.ofString "/", none⟩, .plain, .unsupported, .off, [], .empty,
      .empty, #[], 0, 0⟩
    let m : Machine Nat := ⟨h, 0⟩
    let values : List Value := [.ofString "é", .table 0, .nil]
    let answers := ["é", "\x7bä\x7d", "nil"].map Text.toBytes
    let m' := (m.mapHost (·.printLine "asked")).mapHost (·.printLine "asked")
    E.Tostrings values m answers m' ∧
      Command.print.invoke E values m = wrote m' "é;\x7bä\x7d;nil\n".toUTF8 ∧
      h.files.readFile (h.resolve "f") = .ok "é\x00".toUTF8 ∧
      Command.read.invoke E [.ofString "f"] m = (.ok [.ofString "é\x00"], m) ∧
      Command.print.invoke E [.ofString "é\x00"] m = wrote m "é\x00\n".toUTF8 := by
  intro E fs h m values answers m'
  have hanswers : E.Tostrings values m answers m' :=
    .string ⟨0, m, _, rfl, rfl, rfl⟩
      (.other (by simp) ⟨0, m, _, rfl, rfl, rfl⟩
        (.other (by simp) ⟨0, _, _, rfl, rfl, rfl⟩ (.nil _)))
  have hread : h.files.readFile (h.resolve "f") = .ok "é\x00".toUTF8 := by cbv
  obtain ⟨hprint, hfile⟩ := print_bytes E
  obtain ⟨-, -, hexact⟩ := hprint hanswers
  obtain ⟨hbytes, hprinted⟩ := hfile (m := m) (Arguments.textOf?_ofString "f") hread
  refine ⟨hanswers, ?_, hread, hbytes, ?_⟩
  · have hown : ∀ bytes answer, (.str bytes, answer) ∈ values.zip answers →
        answer = bytes.data.toList := by
      rintro bytes answer (_ | ⟨_, _ | ⟨_, _ | ⟨_, _ | _⟩⟩⟩)
      rfl
    have htext : ∀ answer ∈ answers, Text.IsText answer := by
      intro answer hanswer
      obtain ⟨text, -, rfl⟩ := List.mem_map.mp hanswer
      exact Text.isText_toBytes text
    exact hexact hown htext
  · exact hprinted.mpr (Text.isText_toBytes "é\x00")

/-- What is printed of a table is its kind, if its text is ill-formed; of a string it is the string,
even if all strings have been given a text of their own; and of an ill-formed file it is not the
file. -/
theorem print_changes_bytes :
    let E := Engine.answering fun
      | .str bytes => "<".toUTF8 ++ bytes ++ ">".toUTF8
      | _ => ⟨#[255]⟩
    let fs : FileSystem := ⟨.dir [(Text.toBytes "f", .file 0)], #[⟨⟨#[255]⟩, File.defaultMode⟩], none⟩
    let h : Host := ⟨fs, [], ⟨Path.ofString "/", none⟩, .plain, .unsupported, .off, [], .empty,
      .empty, #[], 0, 0⟩
    let m : Machine Nat := ⟨h, 0⟩
    (E.Tostrings [.table 0] m [[255]] (m.mapHost (·.printLine "asked")) ∧
      (Command.print.invoke E [.table 0] m).2.host.output = "asked\n<table>\n".toUTF8) ∧
    (E.Tostrings [.ofString "a"] m [Text.toBytes "<a>"] m ∧
      (Command.print.invoke E [.ofString "a"] m).2.host.output = "a\n".toUTF8) ∧
    h.files.readFile (h.resolve "f") = .ok ⟨#[255]⟩ ∧
      Command.read.invoke E [.ofString "f"] m = (.ok [.str ⟨#[255]⟩], m) ∧
      (Command.print.invoke E [.str ⟨#[255]⟩] m).2.host.output = "\uFFFD\n".toUTF8 ∧
      "\uFFFD\n".toUTF8 ≠ (⟨#[255]⟩ : ByteArray) ++ "\n".toUTF8 := by
  intro E fs h m
  have hread : h.files.readFile (h.resolve "f") = .ok ⟨#[255]⟩ := by cbv
  refine ⟨⟨.other (by simp) ⟨0, m, _, rfl, rfl, rfl⟩ (.nil _), by cbv⟩,
    ⟨.string ⟨0, m, _, rfl, rfl, rfl⟩ (.nil _), by cbv⟩, hread,
    read_of_readFile (Arguments.textOf?_ofString "f") hread, by cbv, by decide⟩

end GeneralCommand

end LuaShell
