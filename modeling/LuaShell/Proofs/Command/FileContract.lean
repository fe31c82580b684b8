import LuaShell.Command.Basic
import LuaShell.Proofs.Script.Outcome
import LuaShell.Proofs.Text.Utf8
import Mathlib

/-!
# The contract of the file commands

Eight commands make, remove, rename, move or copy entries.  Each of them reads its arguments,
carries out an operation on the files and settles what comes of it, and so they share one
contract (`file_command_contract`): a command raises because of its arguments before anything
has happened, or its operation succeeds without a word, or the operation fails and there is one
report of that.

What a failed operation leaves behind is up to the operation.  Those that are one step of the file
system leave everything as it was, and so do all refusals that come before the first step
(`KeepsOn`); removing or copying a tree may stop half-way.
-/

namespace LuaShell

open Lua (Value)

/-! ## Arguments -/

/-- An argument is of no use: it is absent, or it is neither a string nor a number, or it is a
string that is no UTF-8 text. -/
inductive Unusable : Option Value → Prop
  | absent : Unusable none
  | other {v : Value} (hstring : v.typeName ≠ "string") (hnumber : v.typeName ≠ "number") :
      Unusable (some v)
  | malformed {bytes : ByteArray} (hbytes : ∀ text : String, bytes ≠ text.toUTF8) :
      Unusable (some (.str bytes))

namespace Arguments

/-- The text that a value stands for. -/
def textOf? : Value → Option String
  | .str bytes => (Text.ofBytes? bytes).toOption
  | .int n => some (Value.intText n)
  | .num x => some (Notation.positional x)
  | _ => none

/-- The text that an argument stands for. -/
def text? (values : List Value) (i : Nat) : Option String :=
  values[i]?.bind textOf?

theorem textOf?_eq_none_iff {v : Value} : textOf? v = none ↔ Unusable (some v) := by
  cases v with
  | str bytes =>
      simp only [textOf?]
      constructor
      · intro hnone
        refine .malformed fun text hbytes => ?_
        rw [hbytes, Text.ofBytes?_toUTF8] at hnone
        cases hnone
      · rintro (_ | ⟨hstring, -⟩ | hbytes)
        · exact absurd rfl hstring
        · cases hread : Text.ofBytes? bytes with
          | error e => rfl
          | ok text => exact absurd (Text.ofBytes?_eq_ok_iff.mp hread) (hbytes text)
  | int n =>
      refine iff_of_false (by simp [textOf?]) ?_
      rintro (_ | ⟨-, hnumber⟩ | _)
      exact hnumber rfl
  | num x =>
      refine iff_of_false (by simp [textOf?]) ?_
      rintro (_ | ⟨-, hnumber⟩ | _)
      exact hnumber rfl
  | _ => exact iff_of_true rfl (.other (by simp [Value.typeName]) (by simp [Value.typeName]))

theorem text?_eq_none_iff {values : List Value} {i : Nat} :
    text? values i = none ↔ Unusable values[i]? := by
  unfold text?
  cases values[i]? with
  | none => exact iff_of_true rfl .absent
  | some v => exact textOf?_eq_none_iff

@[simp] theorem textOf?_int (i : Int64) : textOf? (.int i) = some (Value.intText i) := rfl

@[simp] theorem textOf?_ofString (text : String) : textOf? (.ofString text) = some text := by
  simp only [Value.ofString, textOf?, Text.ofBytes?_toUTF8, Except.toOption]

/-- A command gets the text of a value, and raises because of a value without one. -/
theorem toOption_text (a : Arguments) (v : Value) (name : String) :
    (a.text v name).toOption = textOf? v := by
  cases v with
  | str bytes =>
      simp only [Arguments.text, textOf?]
      cases Text.ofBytes? bytes <;> rfl
  | _ => rfl

theorem text_eq_ok_iff {a : Arguments} {v : Value} {name text : String} :
    a.text v name = .ok text ↔ textOf? v = some text := by
  rw [← toOption_text a v name]
  cases a.text v name <;> simp [Except.toOption]

/-- A command gets the text of an argument, and raises because of an argument without one. -/
theorem toOption_string (command : String) (values : List Value) (i : Nat) (name : String) :
    ((Arguments.mk command values).string i name).toOption = text? values i := by
  unfold string get? text?
  cases hvalue : values[i]? with
  | none => rfl
  | some v =>
      cases v with
      | nil => rfl
      | _ => exact toOption_text _ _ name

theorem string_of_text? {command name text : String} {values : List Value} {i : Nat}
    (htext : text? values i = some text) :
    (Arguments.mk command values).string i name = .ok text := by
  have hstring := (toOption_string command values i name).trans htext
  cases hread : (Arguments.mk command values).string i name with
  | error e =>
      rw [hread] at hstring
      cases hstring
  | ok text' =>
      rw [hread] at hstring
      cases hstring
      rfl

theorem string_of_text?_none {values : List Value} {i : Nat} (htext : text? values i = none)
    (command name : String) : ∃ e, (Arguments.mk command values).string i name = .error e := by
  have hstring := (toOption_string command values i name).trans htext
  cases hread : (Arguments.mk command values).string i name with
  | error e => exact ⟨e, rfl⟩
  | ok text =>
      rw [hread] at hstring
      cases hstring

end Arguments

/-! ## Operations -/

/-- What a file command does with the one path, or the two paths, that its arguments name. -/
inductive FileOperation where
  | path (run : FileSystem → Path → FileCommand.Outcome)
  | paths (run : FileSystem → Path → Path → FileCommand.Outcome)

namespace FileOperation

/-- How many arguments have to be there. -/
def arity : FileOperation → Nat
  | path _ => 1
  | paths _ => 2

/-- What the operation comes to on a host, unless an argument is of no use. -/
def outcome? (op : FileOperation) (values : List Value) (h : Host) : Option FileCommand.Outcome :=
  match op with
  | path run => (Arguments.text? values 0).map fun raw => run h.files (h.resolve raw)
  | paths run => (Arguments.text? values 0).bind fun source =>
      (Arguments.text? values 1).map fun target =>
        run h.files (h.resolve source) (h.resolve target)

end FileOperation

namespace Command

/-- The operation of a file command. -/
def operation? : Command → Option FileOperation
  | .createFile => some (.path FileCommand.createFile)
  | .createDirectory => some (.path FileCommand.createDirectory)
  | .removeFile => some (.path FileCommand.removeFile)
  | .removeDirectory => some (.path FileCommand.removeDirectory)
  | .removeAny => some (.path FileCommand.removeAny)
  | .rename => some (.paths FileCommand.rename)
  | .move => some (.paths FileCommand.move)
  | .copy => some (.paths FileCommand.copy)
  | _ => none

/-- The operation is one step of the file system. -/
def isSingle : Command → Bool
  | .createFile | .createDirectory | .removeFile | .rename | .move => true
  | _ => false

end Command

/-- The failure is a refusal, before the first step. -/
def CommandError.isRefusal : CommandError → Bool
  | .fileNotFound _ | .directoryNotFound _ | .isDirectory _ | .notDirectory _
  | .crossDirectoryRename _ | .copyIntoItself _ => true
  | _ => false

/-! ## What a failure leaves behind -/

namespace FileCommand

/-- A failure of this kind leaves the files as they were. -/
def KeepsOn (kind : CommandError → Prop) (fs : FileSystem) (outcome : Outcome) : Prop :=
  ∀ e fs', outcome = (.error e, fs') → kind e → fs' = fs

variable {kind : CommandError → Prop} {fs : FileSystem}

theorem KeepsOn.mono {kind' : CommandError → Prop} {outcome : Outcome}
    (h : KeepsOn kind fs outcome) (hkind : ∀ e, kind' e → kind e) : KeepsOn kind' fs outcome :=
  fun e fs' houtcome hfailure => h e fs' houtcome (hkind e hfailure)

theorem keepsOn_refuse (e : CommandError) : KeepsOn kind fs (refuse fs e) := by
  rintro _ _ ⟨⟩ -
  rfl

theorem keepsOn_ok (fs' : FileSystem) : KeepsOn kind fs (.ok (), fs') := by
  rintro _ _ ⟨⟩

theorem keepsOn_single (made : Except IoError FileSystem) : KeepsOn kind fs (single fs made) := by
  cases made with
  | ok fs' => exact keepsOn_ok fs'
  | error e =>
      rintro _ _ ⟨⟩ -
      rfl

/-- A change of a tree that stops half-way is no refusal. -/
theorem keepsOn_several (outcome : FileSystem.Outcome) :
    KeepsOn (·.isRefusal = true) fs (several outcome) := by
  rcases outcome with ⟨e | _, fs'⟩
  · rintro _ _ ⟨⟩ hrefusal
    cases hrefusal
  · exact keepsOn_ok fs'

theorem keepsOn_createFile (p : Path) : KeepsOn kind fs (createFile fs p) := by
  unfold createFile
  split
  · exact keepsOn_ok _
  · split <;> exact keepsOn_refuse _

theorem keepsOn_createDirectory (p : Path) : KeepsOn kind fs (createDirectory fs p) := by
  unfold createDirectory
  split
  · exact keepsOn_ok _
  · split
    · exact keepsOn_ok fs
    · exact keepsOn_refuse _

theorem keepsOn_removeFile (p : Path) : KeepsOn kind fs (removeFile fs p) := by
  unfold removeFile
  split
  · exact keepsOn_refuse _
  · split
    · exact keepsOn_refuse _
    · exact keepsOn_single _

theorem keepsOn_removeDirectory (p : Path) :
    KeepsOn (·.isRefusal = true) fs (removeDirectory fs p) := by
  unfold removeDirectory
  split
  · exact keepsOn_refuse _
  · split
    · exact keepsOn_refuse _
    · exact keepsOn_several _

theorem keepsOn_removeAny (p : Path) : KeepsOn (·.isRefusal = true) fs (removeAny fs p) := by
  unfold removeAny
  split
  · exact keepsOn_refuse _
  · exact keepsOn_several _
  · exact keepsOn_single _

theorem keepsOn_rename (source target : Path) : KeepsOn kind fs (rename fs source target) := by
  unfold rename
  split
  · exact keepsOn_single _
  · exact keepsOn_refuse _

theorem keepsOn_copy (source target : Path) :
    KeepsOn (·.isRefusal = true) fs (copy fs source target) := by
  unfold copy
  split
  · split
    · exact keepsOn_refuse _
    · exact keepsOn_several _
  · exact keepsOn_single _

end FileCommand

namespace FileOperation

/-- A failure of this kind leaves all files as they were, on any paths. -/
def KeepsOn (kind : CommandError → Prop) : FileOperation → Prop
  | path run => ∀ fs p, FileCommand.KeepsOn kind fs (run fs p)
  | paths run => ∀ fs p q, FileCommand.KeepsOn kind fs (run fs p q)

/-- Every refusal leaves the files as they were, and every failure does if the operation is one
step. -/
theorem keepsOn_operation {c : Command} {op : FileOperation} (hop : c.operation? = some op) :
    op.KeepsOn fun e => c.isSingle = true ∨ e.isRefusal = true := by
  have hrefusal : ∀ {c : Command} {e : CommandError}, c.isSingle = false →
      c.isSingle = true ∨ e.isRefusal = true → e.isRefusal = true := by
    intro c e hsingle hkind
    simpa [hsingle] using hkind
  cases c with
  | createFile =>
      cases hop
      exact fun fs p => FileCommand.keepsOn_createFile p
  | createDirectory =>
      cases hop
      exact fun fs p => FileCommand.keepsOn_createDirectory p
  | removeFile =>
      cases hop
      exact fun fs p => FileCommand.keepsOn_removeFile p
  | removeDirectory =>
      cases hop
      exact fun fs p => (FileCommand.keepsOn_removeDirectory p).mono fun _ => hrefusal rfl
  | removeAny =>
      cases hop
      exact fun fs p => (FileCommand.keepsOn_removeAny p).mono fun _ => hrefusal rfl
  | rename =>
      cases hop
      exact fun fs p q => FileCommand.keepsOn_rename p q
  | move =>
      cases hop
      exact fun fs p q => FileCommand.keepsOn_single _
  | copy =>
      cases hop
      exact fun fs p q => (FileCommand.keepsOn_copy p q).mono fun _ => hrefusal rfl
  | _ => cases hop

theorem KeepsOn.outcome? {kind : CommandError → Prop} {op : FileOperation} (hop : op.KeepsOn kind)
    {values : List Value} {h : Host} {outcome : FileCommand.Outcome}
    (houtcome : op.outcome? values h = some outcome) :
    FileCommand.KeepsOn kind h.files outcome := by
  cases op with
  | path run =>
      obtain ⟨raw, -, rfl⟩ := Option.map_eq_some_iff.mp houtcome
      exact hop _ _
  | paths run =>
      obtain ⟨source, -, htarget⟩ := Option.bind_eq_some_iff.mp houtcome
      obtain ⟨target, -, rfl⟩ := Option.map_eq_some_iff.mp htarget
      exact hop _ _ _

/-! ## Carrying out a command -/

/-- Some argument is of no use exactly if the operation comes to nothing. -/
theorem outcome?_eq_none_iff {op : FileOperation} {values : List Value} {h : Host} :
    op.outcome? values h = none ↔ ∃ i < op.arity, Unusable values[i]? := by
  cases op with
  | path run =>
      simp only [outcome?, Option.map_eq_none_iff, Arguments.text?_eq_none_iff, arity]
      constructor
      · exact fun hfirst => ⟨0, Nat.zero_lt_one, hfirst⟩
      · rintro ⟨i, hi, hvalue⟩
        obtain rfl : i = 0 := by omega
        exact hvalue
  | paths run =>
      simp only [outcome?, arity]
      constructor
      · intro hnone
        cases hsource : Arguments.text? values 0 with
        | none => exact ⟨0, by omega, Arguments.text?_eq_none_iff.mp hsource⟩
        | some source =>
            have htarget : Arguments.text? values 1 = none := by simpa [hsource] using hnone
            exact ⟨1, by omega, Arguments.text?_eq_none_iff.mp htarget⟩
      · rintro ⟨i, hi, hvalue⟩
        have htext := Arguments.text?_eq_none_iff.mpr hvalue
        obtain rfl | rfl : i = 0 ∨ i = 1 := by omega
        · simp [htext]
        · cases Arguments.text? values 0 <;> simp [htext]

/-- The command of an operation. -/
def carryOut (command : String) (values : List Value) (h : Host) : FileOperation → CommandResult
  | path run => FileCommand.onPath command run values h
  | paths run => FileCommand.onPaths command run values h

/-- A command carries out its operation if it gets all of its arguments. -/
theorem carryOut_of_outcome {op : FileOperation} {values : List Value} {h : Host}
    {outcome : FileCommand.Outcome} (houtcome : op.outcome? values h = some outcome)
    (command : String) :
    op.carryOut command values h = { h with files := outcome.2 }.settle outcome.1 := by
  cases op with
  | path run =>
      obtain ⟨raw, hraw, rfl⟩ := Option.map_eq_some_iff.mp houtcome
      simp only [carryOut, FileCommand.onPath, Arguments.string_of_text? hraw]
      rfl
  | paths run =>
      obtain ⟨source, hsource, hrest⟩ := Option.bind_eq_some_iff.mp houtcome
      obtain ⟨target, htarget, rfl⟩ := Option.map_eq_some_iff.mp hrest
      simp only [carryOut, FileCommand.onPaths, Arguments.string_of_text? hsource,
        Arguments.string_of_text? htarget]
      rfl

/-- Otherwise it raises, and has done nothing. -/
theorem carryOut_of_none {op : FileOperation} {values : List Value} {h : Host}
    (hnone : op.outcome? values h = none) (command : String) :
    ∃ e, op.carryOut command values h = (.error e, h) := by
  cases op with
  | path run =>
      obtain ⟨e, he⟩ :=
        Arguments.string_of_text?_none (Option.map_eq_none_iff.mp hnone) command "path"
      exact ⟨e, by simp only [carryOut, FileCommand.onPath, he]⟩
  | paths run =>
      -- The first argument of no use is the one that is complained about.
      cases hsource : Arguments.text? values 0 with
      | none =>
          obtain ⟨e, he⟩ := Arguments.string_of_text?_none hsource command "from"
          exact ⟨e, by simp only [carryOut, FileCommand.onPaths, he]⟩
      | some source =>
          have htarget : Arguments.text? values 1 = none := by
            simpa [outcome?, hsource] using hnone
          obtain ⟨e, he⟩ := Arguments.string_of_text?_none htarget command "to"
          exact ⟨e, by simp only [carryOut, FileCommand.onPaths,
            Arguments.string_of_text? hsource, he]⟩

end FileOperation

/-! ## The contract -/

namespace Host

/-- The log record of a failure, if such records are asked for. -/
def failureRecord (h : Host) (e : CommandError) : ByteArray :=
  let text := s!"command failed: {e.detail}"
  if h.log.admits .debug "luash::core::commands" text then
    (Log.line .debug "luash::core::commands" text).toUTF8
  else .empty

/-- The report of a failure. -/
def failureReport (h : Host) (e : CommandError) : ByteArray :=
  (h.palette.errorTag ++ " " ++ e.message ++ "\n").toUTF8

theorem settle_error (h : Host) (e : CommandError) :
    h.settle (.error e) =
      (.ok [], { h with errors := h.errors ++ h.failureRecord e ++ h.failureReport e }) := by
  unfold settle failureRecord record
  dsimp only
  split
  · rfl
  · rw [ByteArray.append_empty]
    rfl

theorem failureReport_size (h : Host) (e : CommandError) : 0 < (h.failureReport e).size := by
  unfold failureReport
  rw [String.toUTF8, String.toByteArray_append, ByteArray.size_append]
  exact Nat.add_pos_right _ (by decide)

end Host

namespace Machine

variable {ε : Type}

/-- Other files, and everything else as it is. -/
def withFiles (m : Machine ε) (files : FileSystem) : Machine ε :=
  { m with host := { m.host with files := files } }

/-- One report is written to the error stream, and its log record before it; everything else is as
it is. -/
def reporting (m : Machine ε) (e : CommandError) : Machine ε :=
  { m with host := { m.host with
    errors := m.host.errors ++ m.host.failureRecord e ++ m.host.failureReport e } }

end Machine

/-- The ways in which a file command can end. -/
inductive FileEnding where
  | raised
  | succeeded
  | failed

/-- What a file command answers, and the machine after it, are those of an ending: it raises and
nothing has happened; or it answers no values and prints nothing; or it answers no values and
prints one report. -/
inductive EndsAs {ε : Type} (m : Machine ε) : FileEnding → Answer ε (List Value) → Prop
  | raised (e : EngineError) : EndsAs m .raised (.error e, m)
  | succeeded (files : FileSystem) : EndsAs m .succeeded (.ok [], m.withFiles files)
  | failed (files : FileSystem) (e : CommandError) :
      EndsAs m .failed (.ok [], (m.withFiles files).reporting e)

variable {ε χ : Type} {m : Machine ε} {answer : Answer ε (List Value)}

/-- Only one ending fits: a failure is told from a success by the report. -/
theorem EndsAs.unique {ending ending' : FileEnding} (h : EndsAs m ending answer)
    (h' : EndsAs m ending' answer) : ending = ending' := by
  have hreported : ∀ (files files' : FileSystem) (e : CommandError),
      m.withFiles files ≠ (m.withFiles files').reporting e := by
    -- A report is not empty, so the error stream is longer after it.
    intro files files' e heq
    have hsize := congrArg (fun m : Machine ε => m.host.errors.size) heq
    simp only [Machine.reporting, Machine.withFiles, ByteArray.size_append] at hsize
    have := (m.withFiles files').host.failureReport_size e
    simp only [Machine.withFiles] at this
    omega
  -- With a name of its own the answer can be taken apart on both sides.
  generalize hanswer : answer = answer' at h'
  cases h with
  | raised e => cases h' with
    | raised e' => rfl
    | succeeded files | failed files e' => cases congrArg (·.1) hanswer
  | succeeded files => cases h' with
    | raised e' => cases congrArg (·.1) hanswer
    | succeeded files' => rfl
    | failed files' e' => exact absurd (congrArg (·.2) hanswer) (hreported _ _ _)
  | failed files e => cases h' with
    | raised e' => cases congrArg (·.1) hanswer
    | succeeded files' => exact absurd (congrArg (·.2) hanswer).symm (hreported _ _ _)
    | failed files' e' => rfl

/-- A file command is one operation on its arguments. -/
theorem Command.invoke_eq_carryOut (E : Engine ε χ) {c : Command} {op : FileOperation}
    (hop : c.operation? = some op) :
    ∃ name, ∀ values m,
      c.invoke E values m = onHost m (op.carryOut name values) := by
  cases c <;> cases hop <;> exact ⟨_, fun _ _ => rfl⟩

/-- The contract of the file commands, for any engine, any machine and any arguments.  Exactly one
of three things happens.  A command raises exactly if an argument that has to be there is of no
use, and otherwise it ends as its operation does.  A failed operation has left all files as they
were if it is one step or has been refused.  The working directory never changes. -/
theorem file_command_contract (E : Engine ε χ) {c : Command} {op : FileOperation}
    (hop : c.operation? = some op) (values : List Value) (m : Machine ε) :
    (∃! ending, EndsAs m ending (c.invoke E values m)) ∧
      (EndsAs m .raised (c.invoke E values m) ↔ ∃ i < op.arity, Unusable values[i]?) ∧
      (∀ files, op.outcome? values m.host = some (.ok (), files) →
        c.invoke E values m = (.ok [], m.withFiles files)) ∧
      (∀ e files, op.outcome? values m.host = some (.error e, files) →
        c.invoke E values m = (.ok [], (m.withFiles files).reporting e) ∧
          (c.isSingle = true ∨ e.isRefusal = true → files = m.host.files)) ∧
      (c.invoke E values m).2.host.directory = m.host.directory := by
  obtain ⟨name, hinvoke⟩ := c.invoke_eq_carryOut E hop
  have hok : ∀ files, op.outcome? values m.host = some (.ok (), files) →
      c.invoke E values m = (.ok [], m.withFiles files) := by
    intro files houtcome
    simp only [hinvoke, Command.onHost, FileOperation.carryOut_of_outcome houtcome]
    rfl
  have herror : ∀ e files, op.outcome? values m.host = some (.error e, files) →
      c.invoke E values m = (.ok [], (m.withFiles files).reporting e) := by
    intro e files houtcome
    simp only [hinvoke, Command.onHost, FileOperation.carryOut_of_outcome houtcome,
      Host.settle_error]
    rfl
  -- It is the operation that decides how the command ends, and it comes to nothing, to an error
  -- or to a success.
  have hends : ∃ ending, EndsAs m ending (c.invoke E values m) ∧
      (ending = .raised ↔ ∃ i < op.arity, Unusable values[i]?) ∧
      (c.invoke E values m).2.host.directory = m.host.directory := by
    rw [← FileOperation.outcome?_eq_none_iff (h := m.host)]
    rcases houtcome : op.outcome? values m.host with _ | ⟨e | _, files⟩
    · obtain ⟨e, hraises⟩ := FileOperation.carryOut_of_none houtcome name
      have hanswer : c.invoke E values m = (.error e, m) := by
        simp only [hinvoke, Command.onHost, hraises]
      rw [hanswer]
      exact ⟨.raised, .raised e, by simp, rfl⟩
    · rw [herror e files houtcome]
      exact ⟨.failed, .failed files e, by simp, rfl⟩
    · rw [hok files houtcome]
      exact ⟨.succeeded, .succeeded files, by simp, rfl⟩
  obtain ⟨ending, hending, hraised, hdirectory⟩ := hends
  refine ⟨⟨ending, hending, fun _ h => h.unique hending⟩, ?_, hok, ?_, hdirectory⟩
  · rw [← hraised]
    constructor
    · exact fun h => hending.unique h
    · rintro rfl
      exact hending
  · intro e files houtcome
    refine ⟨herror e files houtcome, ?_⟩
    exact (FileOperation.keepsOn_operation hop).outcome? houtcome e files rfl

/-- A directory is not copied into itself, which is reported in one line, and a copy needs to be told
where to. -/
theorem copy_contract_into_itself :
    let fs : FileSystem := ⟨.dir [(Text.toBytes "d", .dir [])], #[], none⟩
    let h : Host := ⟨fs, [], ⟨Path.ofString "/", none⟩, .plain, .unsupported, .off, [], .empty,
      .empty, #[], 0, 0⟩
    let m : Machine Nat := ⟨h, 0⟩
    Command.copy.operation? = some (.paths FileCommand.copy) ∧
      Command.copy.invoke Engine.idle [.ofString "d", .ofString "d/e"] m =
        (.ok [], m.reporting (.copyIntoItself (Path.ofString "/d"))) ∧
      (m.reporting (.copyIntoItself (Path.ofString "/d"))).host.errors =
        "[Error] Cannot copy directory /d into itself.\n".toUTF8 ∧
      EndsAs m .raised (Command.copy.invoke Engine.idle [.ofString "d"] m) := by
  intro fs h m
  have hop : Command.copy.operation? = some (.paths FileCommand.copy) := rfl
  obtain ⟨-, -, -, hfailed, -⟩ :=
    file_command_contract Engine.idle hop [.ofString "d", .ofString "d/e"] m
  obtain ⟨-, hraised, -⟩ := file_command_contract Engine.idle hop [.ofString "d"] m
  have hsource : h.resolve "d" = Path.ofString "/d" := by decide
  have hdirectory : fs.isDirectory (Path.ofString "/d") = true := by cbv
  have hinside : (h.resolve "d/e").normalize.startsWith (Path.ofString "/d").normalize = true := by
    decide
  have hcopy : FileCommand.copy fs (h.resolve "d") (h.resolve "d/e") =
      (.error (.copyIntoItself (Path.ofString "/d")), fs) := by
    rw [FileCommand.copy, hsource, if_pos hdirectory, if_pos hinside]
    rfl
  have hreport : (m.reporting (.copyIntoItself (Path.ofString "/d"))).host.errors =
      "[Error] Cannot copy directory /d into itself.\n".toUTF8 := by decide +kernel
  refine ⟨hop, (hfailed _ fs ?_).1, hreport, hraised.mpr ⟨1, by decide, .absent⟩⟩
  rw [← hcopy]
  simp only [FileOperation.outcome?, Arguments.text?, Value.ofString, List.getElem?_cons_zero,
    List.getElem?_cons_succ, Option.bind_some, Arguments.textOf?, Text.ofBytes?_toUTF8]
  rfl

end LuaShell
