import LuaShell.Proofs.Command.FileContract
import LuaShell.Proofs.Script.Leaving
import Mathlib

/-!
# Script files one after the other

`execute` goes through its arguments in order.  It runs the file that an argument names before it
looks at the next one, so that the path of each file is resolved in the working directory that the
files before it have left.  The first argument that names no file, and the first file that cannot be
read or does not come to its end, is what the command raises about; no argument behind that has any
part in it (`execute_in_order`).

A file that is executed is run without a report.  Of a failure that nobody catches there is one
report at most, by the unit that is at the head of the chain of files, and nothing but log records
is written by the others (`FailChain.reportedOnce`).
-/

namespace LuaShell

open Lua (Value)

variable {ε χ : Type}

namespace Host

/-- A record for the log. -/
structure Note where
  level : Log.Level
  target : String
  message : String

/-- Write the records that are asked for. -/
def recorded (notes : List Note) (h : Host) : Host :=
  notes.foldl (fun h note => h.record note.level note.target note.message) h

theorem recorded_append (notes notes' : List Note) (h : Host) :
    h.recorded (notes ++ notes') = (h.recorded notes).recorded notes' :=
  List.foldl_append

theorem recorded_of_off {h : Host} (hoff : h.log = .off) (notes : List Note) :
    h.recorded notes = h := by
  induction notes with
  | nil => rfl
  | cons note notes ih => rwa [recorded, List.foldl_cons, record_of_off hoff]

end Host

namespace RunCommand

open Arguments (textOf?)

/-! ## Files that come to their end -/

/-- A script file that has been run: the text that names it, the path that this stands for, and
what was read there. -/
structure FileRun where
  name : String
  path : Path
  source : String

/-- Files are run one after the other, each of them to its end. -/
inductive Ran (E : Engine ε χ) : Machine ε → List FileRun → Machine ε → Prop
  | nil (m : Machine ε) : Ran E m [] m
  | cons {m m₁ m' : Machine ε} {file : FileRun} {files : List FileRun} {values : List Value}
      (hpath : m.host.resolve file.name = file.path)
      (hread : m.host.files.readText file.path = .ok file.source)
      (hunit : E.execute file.source file.name .quiet (executing file.name m) = (.ok values, m₁))
      (hrest : Ran E m₁ files m') : Ran E m (file :: files) m'

/-- On a machine an argument is where `execute` stops: with an error, and with the machine after
it. -/
inductive Stops (E : Engine ε χ) (m : Machine ε) : Value → EngineError → Machine ε → Prop
  | absent : Stops E m .nil (.command (.missingArgument "execute" "filename")) m
  | other {v : Value} (hnil : v ≠ .nil) (hstring : v.typeName ≠ "string")
      (hnumber : v.typeName ≠ "number") :
      Stops E m v (.command (.invalidArgument "execute"
        s!"expected a string for 'filename', got {v.kindName}")) m
  | malformed {bytes : ByteArray} {cause : Text.Utf8Error}
      (hbytes : ∀ text : String, bytes ≠ text.toUTF8) (hcause : Text.ofBytes? bytes = .error cause) :
      Stops E m (.str bytes) (.conversion "string" "&str" (some cause.message)) m
  | unreadable {v : Value} {name : String} {cause : IoError} (hname : textOf? v = some name)
      (hread : m.host.files.readText (m.host.resolve name) = .error cause) :
      Stops E m v (.command (.unreadable name cause)) m
  | fails {v : Value} {name source : String} {d : Diagnostic} {m' : Machine ε}
      (hname : textOf? v = some name)
      (hread : m.host.files.readText (m.host.resolve name) = .ok source)
      (hunit : E.execute source name .quiet (executing name m) = (.error (.failed d), m')) :
      Stops E m v (.command (.executionFailed name d.display)) m'
  | exits {v : Value} {name source : String} {code : Int} {m' : Machine ε}
      (hname : textOf? v = some name)
      (hread : m.host.files.readText (m.host.resolve name) = .ok source)
      (hunit : E.execute source name .quiet (executing name m) = (.error (.exit code), m')) :
      Stops E m v (.command (.exit code)) m'

variable {E : Engine ε χ}

/-- A value names a file, or else every machine stops at it. -/
theorem textOf?_or_stops (E : Engine ε χ) (v : Value) :
    (∃ name, textOf? v = some name) ∨
      ∃ e, (Arguments.mk "execute" [v]).string 0 "filename" = .error e ∧ ∀ m, Stops E m v e m := by
  cases v with
  | nil => exact .inr ⟨_, rfl, fun _ => .absent⟩
  | str bytes =>
      cases hread : Text.ofBytes? bytes with
      | ok text => exact .inl ⟨text, by simp [textOf?, hread, Except.toOption]⟩
      | error cause =>
          have hbytes : ∀ text : String, bytes ≠ text.toUTF8 := by
            rintro text rfl
            rw [Text.ofBytes?_toUTF8] at hread
            cases hread
          refine .inr ⟨.conversion "string" "&str" (some cause.message), ?_,
            fun _ => .malformed hbytes hread⟩
          simp only [Arguments.string, Arguments.get?, List.getElem?_cons_zero, Arguments.text, hread]
  | int n => exact .inl ⟨_, rfl⟩
  | num x => exact .inl ⟨_, rfl⟩
  | _ => exact .inr ⟨_, rfl, fun _ => .other (by simp) (by simp [Value.typeName])
      (by simp [Value.typeName])⟩

/-- The argument behind some others is read as if it were alone. -/
theorem string_append (before after : List Value) (v : Value) :
    (Arguments.mk "execute" (before ++ v :: after)).string before.length "filename" =
      (Arguments.mk "execute" [v]).string 0 "filename" := by
  simp [Arguments.string, Arguments.get?]
  rfl

/-- A file that has been run is one of the files that `execute` has executed. -/
theorem executed_of_ran {a : Arguments} (before : List Value) {done rest : List Value}
    {here m after : Machine ε} {files : List FileRun} (hvalues : a = ⟨"execute", before ++ (done ++ rest)⟩)
    (hran : Ran E m files after) (hnames : done.map textOf? = files.map fun file => some file.name)
    (hbefore : UnitRun.Executed E a here before.length m) :
    UnitRun.Executed E a here (before ++ done).length after := by
  -- On the files; each of them is put behind those that have been executed before.
  induction hran generalizing before done with
  | nil m =>
      obtain rfl : done = [] := by simpa using hnames
      simpa using hbefore
  | @cons m m₁ m' file files values hpath hread hunit hrest ih =>
      obtain ⟨v, done, rfl, hname, hnames⟩ : ∃ v done', done = v :: done' ∧
          textOf? v = some file.name ∧
          done'.map textOf? = files.map fun file => some file.name := by
        simpa [List.map_eq_cons_iff] using hnames
      have hraw : a.string before.length "filename" = .ok file.name := by
        rw [hvalues, List.cons_append, string_append]
        exact Arguments.string_of_text? hname
      have hfile : executeFile E file.name m = (.ok (), m₁) := by
        rw [executeFile_of_text (hpath ▸ hread), hunit]
        rfl
      have hnext := ih (before ++ [v]) (by simpa using hvalues) hnames
        (by simpa using hbefore.more hraw hfile)
      simpa using hnext

/-! ## Where the files stop -/

/-- `execute` stops when the argument gives no name, or when the file of that name has not come to
its end. -/
theorem Stops.string_or_executeFile {m stopped : Machine ε} {v : Value} {e : EngineError}
    (hstops : Stops E m v e stopped) :
    ((Arguments.mk "execute" [v]).string 0 "filename" = .error e ∧ stopped = m) ∨
      ∃ name, textOf? v = some name ∧ executeFile E name m = (.error e, stopped) := by
  cases hstops with
  | absent => exact .inl ⟨rfl, rfl⟩
  | other hnil hstring hnumber =>
      refine .inl ⟨?_, rfl⟩
      cases v with
      | nil => exact absurd rfl hnil
      | str bytes => exact absurd rfl hstring
      | int n => exact absurd rfl hnumber
      | num x => exact absurd rfl hnumber
      | _ => rfl
  | malformed hbytes hcause =>
      refine .inl ⟨?_, rfl⟩
      simp only [Arguments.string, Arguments.get?, List.getElem?_cons_zero, Arguments.text, hcause]
  | unreadable hname hread => exact .inr ⟨_, hname, by simp only [executeFile, hread]⟩
  | fails hname hread hunit =>
      exact .inr ⟨_, hname, by rw [executeFile_of_text hread, hunit]; rfl⟩
  | exits hname hread hunit =>
      exact .inr ⟨_, hname, by rw [executeFile_of_text hread, hunit]; rfl⟩

/-- The arguments name files that have been run to their ends, all of them or those up to one at
which the machine then stops. -/
theorem ran_or_stops (E : Engine ε χ) (values : List Value) (m : Machine ε) :
    ∃ done files after, Ran E m files after ∧
      done.map textOf? = files.map (fun file => some file.name) ∧
      (values = done ∨ ∃ v rest e stopped, values = done ++ v :: rest ∧
        Stops E after v e stopped) := by
  induction values generalizing m with
  | nil => exact ⟨[], [], m, .nil m, rfl, .inl rfl⟩
  | cons v rest ih =>
      -- At the first argument, with no file run before it.
      have hstop : ∀ {e stopped}, Stops E m v e stopped → ∃ done files after, Ran E m files after ∧
          done.map textOf? = files.map (fun file => some file.name) ∧
          (v :: rest = done ∨ ∃ v' rest' e stopped, v :: rest = done ++ v' :: rest' ∧
            Stops E after v' e stopped) :=
        fun h => ⟨[], [], m, .nil m, rfl, .inr ⟨v, rest, _, _, rfl, h⟩⟩
      rcases textOf?_or_stops E v with ⟨name, hname⟩ | ⟨e, -, hall⟩
      · cases hread : m.host.files.readText (m.host.resolve name) with
        | error cause => exact hstop (.unreadable hname hread)
        | ok source =>
            rcases hunit : E.execute source name .quiet (executing name m) with
              ⟨(d | code) | values, m₁⟩
            · exact hstop (.fails hname hread hunit)
            · exact hstop (.exits hname hread hunit)
            · obtain ⟨done, files, after, hran, hnames, hrest⟩ := ih m₁
              refine ⟨v :: done, ⟨name, m.host.resolve name, source⟩ :: files, after,
                .cons rfl hread hunit hran, by simp [hname, hnames], ?_⟩
              rcases hrest with rfl | ⟨v', rest', e, stopped, rfl, hstops⟩
              · exact .inl rfl
              · exact .inr ⟨v', rest', e, stopped, rfl, hstops⟩
      · exact hstop (hall m)

/-- That the first argument is looked at before the loop makes no difference. -/
theorem execute_eq_executeFrom {values : List Value} (hsome : values ≠ []) (m : Machine ε) :
    execute E values m = executeFrom E ⟨"execute", values⟩ values.length 0 m := by
  obtain ⟨v, rest, rfl⟩ := List.exists_cons_of_ne_nil hsome
  cases v <;> simp [execute, executeFrom, Arguments.get?, Arguments.string]

/-- Behind files that have been run the other arguments are gone through. -/
theorem execute_of_ran_append {done : List Value} {m after : Machine ε} {files : List FileRun}
    (hran : Ran E m files after)
    (hnames : done.map textOf? = files.map fun file => some file.name) (rest : List Value)
    (hsome : done ++ rest ≠ []) :
    execute E (done ++ rest) m =
      executeFrom E ⟨"execute", done ++ rest⟩ rest.length done.length after := by
  have hfirst : UnitRun.Executed E ⟨"execute", done ++ rest⟩ m done.length after :=
    executed_of_ran [] rfl hran hnames .none
  rw [execute_eq_executeFrom hsome, List.length_append]
  exact UnitRun.executeFrom_of_executed hfirst rest.length

theorem execute_of_ran {done : List Value} {m after : Machine ε} {files : List FileRun}
    (hsome : done ≠ []) (hran : Ran E m files after)
    (hnames : done.map textOf? = files.map fun file => some file.name) :
    execute E done m = (.ok [], after) := by
  simpa [executeFrom] using execute_of_ran_append hran hnames [] (by simpa using hsome)

theorem execute_of_stops {done : List Value} {v : Value} {e : EngineError}
    {m after stopped : Machine ε} {files : List FileRun} (hran : Ran E m files after)
    (hnames : done.map textOf? = files.map fun file => some file.name)
    (hstops : Stops E after v e stopped) (rest : List Value) :
    execute E (done ++ v :: rest) m = (.error e, stopped) := by
  rw [execute_of_ran_append hran hnames _ (by simp), List.length_cons, executeFrom, string_append]
  rcases hstops.string_or_executeFile with ⟨hstring, rfl⟩ | ⟨name, hname, hfile⟩
  · simp only [hstring]
  · have hstring : (Arguments.mk "execute" [v]).string 0 "filename" = .ok name :=
      Arguments.string_of_text? hname
    simp only [hstring, hfile]

end RunCommand

/-! ## Reports of failures -/

/-- Report a failure, if that is wanted. -/
def UnitOptions.report (options : UnitOptions) (d : Diagnostic) (h : Host) : Host :=
  if options.reportFailure then h.complain (d.report h.palette) else h

/-- The record of a failure. -/
def Diagnostic.note (d : Diagnostic) (origin : String) : Host.Note :=
  ⟨.debug, "luash::script", s!"{d.kind.label} failure in {origin}: {d.display}"⟩

/-- The kind of a diagnostic is the one that it has been made for. -/
theorem Diagnostic.kind_ofError (kind : FailureKind) (error : EngineError)
    (origin source : String) : (ofError kind error origin source).kind = kind := by
  unfold ofError
  dsimp only
  split <;> rfl

/-- A failure is noted, and then reported if that is wanted. -/
theorem Engine.fail_eq (kind : FailureKind) (error : EngineError) (source origin : String)
    (options : UnitOptions) (m : Machine ε) :
    fail kind error source origin options m =
      (.error (.failed (.ofError kind error origin source)), m.mapHost fun h =>
        options.report (.ofError kind error origin source)
          (h.recorded [(Diagnostic.ofError kind error origin source).note origin])) := by
  simp only [Diagnostic.note, Diagnostic.kind_ofError]
  rfl

namespace UnitRun

variable {E : Engine ε χ} {u v : UnitRun ε}

/-- The machine as the run of a unit has left it, before anything is written about that. -/
def left (E : Engine ε χ) (u : UnitRun ε) : Machine ε :=
  match E.compileUnit u.source u.origin u.options.printResult with
  | .error _ => Engine.noted u.source u.origin u.machine
  | .ok chunk => (E.run chunk (Engine.noted u.source u.origin u.machine)).2

/-- The unit does not compile, or its run ends in a failure that is no request to leave; the host
is then `h`. -/
def Fails (E : Engine ε χ) (h : Host) (u : UnitRun ε) : Prop :=
  E.UnitFails u.source u.origin u.options u.machine ∧ (u.left E).host = h

/-- All that is written about a failure is a record and, if that is wanted, one report. -/
theorem Fails.result {h : Host} (hfails : u.Fails E h) :
    ∃ d m, u.result E = (.error (.failed d), m) ∧
      m.host = u.options.report d (h.recorded [d.note u.origin]) := by
  -- Either nothing has been run, or the run has ended in the failure.
  obtain ⟨⟨e, hcompile⟩ | ⟨chunk, e, hcompile, hrun, hstays⟩, rfl⟩ := hfails
  · refine ⟨_, _, (Engine.execute_of_compile_error hcompile).trans (Engine.fail_eq ..), ?_⟩
    simp only [left, hcompile]
    rfl
  · rcases hleft : E.run chunk (Engine.noted u.source u.origin u.machine) with ⟨answer, m⟩
    obtain rfl : answer = .error e := by simpa [hleft] using hrun
    have hresult : u.result E = Engine.fail .runtime e u.source u.origin u.options m := by
      rw [UnitRun.result, Engine.execute_of_compile_ok hcompile, hleft]
      simp only [hstays]
    refine ⟨_, _, hresult.trans (Engine.fail_eq ..), ?_⟩
    simp only [left, hcompile, hleft]
    rfl

/-- Apart from records nothing is written about a unit that is run without a report. -/
theorem result_snd_of_quiet (hquiet : u.options = .quiet) :
    ∃ notes, (u.result E).2.host = (u.left E).host.recorded notes := by
  by_cases hfails : E.UnitFails u.source u.origin u.options u.machine
  · obtain ⟨d, m, hresult, hhost⟩ := Fails.result ⟨hfails, rfl⟩
    exact ⟨[d.note u.origin], by rw [hresult, hhost, hquiet]; rfl⟩
  · -- Neither the values of the unit nor a request to leave are written about.
    refine ⟨[], ?_⟩
    cases hcompile : E.compileUnit u.source u.origin u.options.printResult with
    | error e => exact absurd (.inl ⟨e, hcompile⟩) hfails
    | ok chunk =>
        simp only [left, UnitRun.result, Engine.execute_of_compile_ok hcompile, hcompile]
        rcases hrun : E.run chunk (Engine.noted u.source u.origin u.machine) with ⟨e | values, m⟩
        · cases hexit : e.exitRequest? with
          | none => exact absurd (.inr ⟨chunk, e, hcompile, by rw [hrun], hexit⟩) hfails
          | some code => simp only [hexit]; rfl
        · simp only [hquiet, UnitOptions.quiet, Engine.printResult]
          rfl

/-- A unit that executes a file fails if the unit of the file does. -/
theorem Executes.fails {d : Diagnostic} {m : Machine ε} (hexecutes : u.Executes E v)
    (hfailed : v.result E = (.error (.failed d), m)) : u.Fails E m.host := by
  obtain ⟨values, here, i, before, hcalls, hfirst, hraw, htext, hoptions, hmachine⟩ := hexecutes
  -- The failure of the file is none of leaving, and wrapping it makes it none.
  have hfile : RunCommand.executeFile E v.origin before =
      (.error (.command (.executionFailed v.origin d.display)), m) := by
    rw [result, hoptions, hmachine] at hfailed
    simp only [RunCommand.executeFile_of_text htext, hfailed, RunCommand.afterScript]
  obtain ⟨chunk, hcompile, hfailure⟩ := hcalls
  obtain ⟨e, m', hwraps, hrun, hhost⟩ :=
    hfailure _ _ (invoke_execute_of_error hfirst hraw hfile)
  refine ⟨.inr ⟨chunk, e, hcompile, by rw [hrun], hwraps.exitRequest?⟩, ?_⟩
  simp only [left, hcompile, hrun, hhost]

end UnitRun

/-- Units each of which executes the next one, and the last one fails on the host `h`. -/
inductive FailChain (E : Engine ε χ) (h : Host) : List (UnitRun ε) → Prop
  | fails {u : UnitRun ε} (hfails : u.Fails E h) : FailChain E h [u]
  | executes {u v : UnitRun ε} {us : List (UnitRun ε)} (hexecutes : u.Executes E v)
      (hrest : FailChain E h (v :: us)) : FailChain E h (u :: v :: us)

/-- Every unit of a chain fails, and none of them has written anything but records about it, apart
from the report of the first one. -/
theorem FailChain.reportedOnce {E : Engine ε χ} {h : Host} {u : UnitRun ε}
    {us : List (UnitRun ε)} (hchain : FailChain E h (u :: us)) :
    (∃ d notes m, u.result E = (.error (.failed d), m) ∧
      m.host = u.options.report d (h.recorded notes)) ∧
    ∀ v ∈ us, ∃ d notes m, v.result E = (.error (.failed d), m) ∧ m.host = h.recorded notes := by
  induction us generalizing u with
  | nil =>
      obtain ⟨hfails⟩ := hchain
      obtain ⟨d, m, hresult, hhost⟩ := hfails.result
      exact ⟨⟨d, [d.note u.origin], m, hresult, hhost⟩, by simp⟩
  | cons v us ih =>
      obtain - | ⟨hexecutes, hrest⟩ := hchain
      obtain ⟨⟨d, notes, m, hresult, hhost⟩, hinner⟩ := ih hrest
      have hquiet : v.options = .quiet := by
        obtain ⟨_, _, _, _, _, _, _, _, hoptions, _⟩ := hexecutes
        exact hoptions
      replace hhost : m.host = h.recorded notes := by
        rw [hhost, hquiet]
        rfl
      -- What has failed below is what this unit fails with, and it adds one record.
      obtain ⟨d', m', hresult', hhost'⟩ := (hexecutes.fails hresult).result
      refine ⟨⟨d', notes ++ [d'.note u.origin], m', hresult', ?_⟩, ?_⟩
      · rw [hhost', hhost, Host.recorded_append]
      · exact List.forall_mem_cons.mpr ⟨⟨d, notes, m, hresult, hhost⟩, hinner⟩

namespace RunCommand

open Arguments (textOf?)

/-- For every engine and every list of arguments, `execute` runs the files that the arguments name,
once each and in their order, up to the first argument at which it stops; what that is raised as is
said by `Stops`, the machine is then as the files have left it, and no argument behind that is of
any consequence.  A file is run without a report of its failure, so that of a failure that nobody
catches there is no report but that of the unit at the head of the chain of files. -/
theorem execute_in_order (E : Engine ε χ) :
    (∀ m, execute E [] m = (.error (.command (.missingArgument "execute" "filename")), m)) ∧
    (∀ (values : List Value) (m : Machine ε), values ≠ [] → ∃ done files after,
      Ran E m files after ∧ done.map textOf? = files.map (fun file => some file.name) ∧
      ((values = done ∧ execute E values m = (.ok [], after)) ∨
        ∃ v rest e stopped, values = done ++ v :: rest ∧ Stops E after v e stopped ∧
          ∀ later, execute E (done ++ v :: later) m = (.error e, stopped))) ∧
    (∀ u : UnitRun ε, u.options = .quiet →
      ∃ notes, (u.result E).2.host = (u.left E).host.recorded notes) ∧
    ∀ (h : Host) (u : UnitRun ε) (us : List (UnitRun ε)), FailChain E h (u :: us) →
      (∃ d notes m, u.result E = (.error (.failed d), m) ∧
        m.host = u.options.report d (h.recorded notes)) ∧
      ∀ v ∈ us, ∃ d notes m, v.result E = (.error (.failed d), m) ∧
        m.host = h.recorded notes := by
  refine ⟨fun m => rfl, fun values m hsome => ?_, fun u hquiet => UnitRun.result_snd_of_quiet hquiet,
    fun h u us hchain => hchain.reportedOnce⟩
  obtain ⟨done, files, after, hran, hnames, hvalues⟩ := ran_or_stops E values m
  refine ⟨done, files, after, hran, hnames, ?_⟩
  rcases hvalues with rfl | ⟨v, rest, e, stopped, hvalues, hstops⟩
  · exact .inl ⟨rfl, execute_of_ran hsome hran hnames⟩
  · exact .inr ⟨v, rest, e, stopped, hvalues, hstops, execute_of_stops hran hnames hstops⟩

/-- A string that is no text raises the error of a conversion, which is none of a command. -/
theorem execute_malformed :
    let h : Host := ⟨⟨.dir [], #[], none⟩, [], ⟨Path.ofString "/", none⟩, .plain, .unsupported,
      .off, [], .empty, .empty, #[], 0, 0⟩
    let m : Machine Nat := ⟨h, 0⟩
    ∃ e, execute Engine.idle [.str ⟨#[255]⟩] m = (.error e, m) ∧ ∀ cause, e ≠ .command cause := by
  intro h m
  have hbytes : Text.ofBytes? ⟨#[255]⟩ = .error ⟨0, some 1⟩ := by cbv
  have hstring : (Arguments.mk "execute" [.str ⟨#[255]⟩]).string 0 "filename" =
      .error (.conversion "string" "&str" (some (Text.Utf8Error.mk 0 (some 1)).message)) := by
    simp only [Arguments.string, Arguments.get?, List.getElem?_cons_zero, Arguments.text, hbytes]
  refine ⟨.conversion "string" "&str" (some (Text.Utf8Error.mk 0 (some 1)).message), ?_, by simp⟩
  rw [execute_eq_executeFrom (by simp), List.length_singleton, executeFrom, hstring]

/-- Of three files the first comes to its end and the second fails, which is not reported.  A source
that executes it fails as well, and the report of that is the only one. -/
theorem execute_in_order_three :
    let E : Engine Nat String :=
      { Engine.idle with
        run := fun chunk m =>
          if chunk = "ok" then (.ok [], m)
          else if chunk = "bad" then (.error (.runtime "no"), m)
          else (.error (.callback "" (.command (.executionFailed "b" "no"))), m) }
    let fs : FileSystem :=
      ⟨.dir [(Text.toBytes "a", .file 0), (Text.toBytes "b", .file 1)],
        #[⟨"ok".toUTF8, File.defaultMode⟩, ⟨"bad".toUTF8, File.defaultMode⟩], none⟩
    let h : Host := ⟨fs, [], ⟨Path.ofString "/", none⟩, .plain, .unsupported, .off, [], .empty,
      .empty, #[], 0, 0⟩
    let m : Machine Nat := ⟨h, 0⟩
    let values := ["a", "b", "c"].map Value.ofString
    let u : UnitRun Nat := ⟨"execute('b')", inlineOrigin, .batch, m⟩
    let v : UnitRun Nat := ⟨"bad", "b", .quiet, m⟩
    values ≠ [] ∧ FailChain E h [u, v] ∧
      (∃ done files after, Ran E m files after ∧
        done.map textOf? = files.map (fun file => some file.name) ∧
        ((values = done ∧ execute E values m = (.ok [], after)) ∨
          ∃ v rest e stopped, values = done ++ v :: rest ∧ Stops E after v e stopped ∧
            ∀ later, execute E (done ++ v :: later) m = (.error e, stopped))) ∧
      (∃ d m', u.result E = (.error (.failed d), m') ∧ m'.host = UnitOptions.batch.report d h) ∧
      ∃ d m', v.result E = (.error (.failed d), m') ∧ m'.host = h := by
  intro E fs h m values u v
  have hrecorded : ∀ notes, h.recorded notes = h := Host.recorded_of_off rfl
  have hnoted : ∀ source origin, Engine.noted source origin m = m := Engine.noted_of_off rfl
  have hmachine : v.machine = executing v.origin m := (executing_of_off rfl _).symm
  have hrun : E.run "bad" m = (.error (.runtime "no"), m) := rfl
  have hfails : v.Fails E h := by
    refine ⟨.inr ⟨"bad", .runtime "no", rfl, ?_, rfl⟩, ?_⟩
    · rw [hnoted, hrun]
    · show (E.run "bad" (Engine.noted v.source v.origin m)).2.host = h
      rw [hnoted, hrun]
  have hraw : (Arguments.mk "execute" [.ofString "b"]).string 0 "filename" = .ok "b" := by cbv
  have htext : fs.readText (h.resolve "b") = .ok "bad" := by cbv
  have hunit : v.result E = (.error (.failed (.ofError .runtime (.runtime "no") "b" "bad")), m) := by
    have hcompile : E.compileUnit v.source v.origin v.options.printResult = .ok "bad" := rfl
    rw [UnitRun.result, Engine.execute_of_compile_ok hcompile, hnoted, hrun]
    simp only [EngineError.exitRequest?, Engine.fail_eq, Machine.mapHost, m, hrecorded]
    rfl
  have hdisplay : (Diagnostic.ofError .runtime (.runtime "no") "b" "bad").display = "no" := by cbv
  have hfile : executeFile E "b" m = (.error (.command (.executionFailed "b" "no")), m) := by
    rw [executeFile_of_text htext, ← hmachine]
    change (afterScript "b" (v.result E).1, (v.result E).2) = _
    rw [hunit, afterScript, hdisplay]
  have hexecutes : u.Executes E v := by
    refine ⟨[.ofString "b"], m, 0, m, ⟨"execute('b')", rfl, fun e after hinvoke => ?_⟩, .none, hraw,
      htext, rfl, hmachine⟩
    rw [UnitRun.invoke_execute_of_error .none hraw hfile] at hinvoke
    cases hinvoke
    refine ⟨_, m, .callback "" .refl, ?_, rfl⟩
    rw [hnoted]
    rfl
  have hchain : FailChain E h [u, v] := .executes hexecutes (.fails hfails)
  have hsome : values ≠ [] := by simp [values]
  obtain ⟨-, hfiles, -, hreports⟩ := execute_in_order E
  obtain ⟨⟨d, notes, m', hresult, hhost⟩, hinner⟩ := hreports h u [v] hchain
  obtain ⟨d', notes', m'', hresult', hhost'⟩ := hinner v (by simp)
  rw [hrecorded] at hhost hhost'
  exact ⟨hsome, hchain, hfiles values m hsome, ⟨d, m', hresult, hhost⟩, d', m'', hresult', hhost'⟩

end RunCommand

end LuaShell
