import LuaShell.Command.Basic
import LuaShell.Proofs.Script.Outcome

/-!
# Leaving through nested script files

A script file can execute another one, and so on to any depth.  When the last of them asks
to leave and no script on the way catches that, every unit in the chain asks to leave with
the same code, and the host stays as the request found it (`QuitChain.asksToLeave`).  What
the engine contributes is one assumption: a failure of a native call that the script does
not catch ends the run of its chunk, wrapped any number of times (`CallsUncaught`).
-/

namespace LuaShell

open Lua (Value)

variable {ε χ : Type}

namespace RunCommand

/-- The machine on which the unit of a script file is run. -/
def executing (raw : String) (m : Machine ε) : Machine ε :=
  m.mapHost (·.record .debug "luash::core::commands::general"
    s!"executing {(m.host.resolve raw).display}")

theorem executing_of_off {m : Machine ε} (hoff : m.host.log = .off) (raw : String) :
    executing raw m = m := by
  rw [executing, Machine.mapHost, Host.record_of_off hoff]

/-- What a command that executes a file answers, by what the unit of the file came to. -/
def afterScript (raw : String) : Except ScriptError (List Value) → Except EngineError Unit
  | .ok _ => .ok ()
  | .error (.exit code) => .error (.command (.exit code))
  | .error (.failed d) => .error (.command (.executionFailed raw d.display))

theorem executeFile_of_text {E : Engine ε χ} {m : Machine ε} {raw source : String}
    (htext : m.host.files.readText (m.host.resolve raw) = .ok source) :
    executeFile E raw m = (afterScript raw (E.execute source raw .quiet (executing raw m)).1,
      (E.execute source raw .quiet (executing raw m)).2) := by
  simp only [executeFile, htext]
  rw [show m.mapHost _ = executing raw m from rfl]
  rcases E.execute source raw .quiet (executing raw m) with ⟨(d | code) | values, after⟩ <;> rfl

end RunCommand

/-- A unit about to be run: its source and name, what is written about it, and the machine. -/
structure UnitRun (ε : Type) where
  source : String
  origin : String
  options : UnitOptions
  machine : Machine ε

namespace UnitRun

variable (E : Engine ε χ)

/-- What the unit answers, and the machine after it. -/
def result (u : UnitRun ε) : Except ScriptError (List Value) × Machine ε :=
  E.execute u.source u.origin u.options u.machine

/-- The run of the unit comes to call a native command on the machine `here`, and the script
does not catch a failure of that call: the run ends with the failure, wrapped by native
functions, and the host is as the command has left it. -/
def CallsUncaught (u : UnitRun ε) (command : Command) (values : List Value)
    (here : Machine ε) : Prop :=
  ∃ chunk, E.compileUnit u.source u.origin u.options.printResult = .ok chunk ∧
    ∀ e after, command.invoke E values here = (.error e, after) →
      ∃ e' m, e.Wraps e' ∧ E.run chunk (Engine.noted u.source u.origin u.machine) = (.error e', m) ∧
        m.host = after.host

/-- A call of `execute` has run the first files that it was given, without any failure. -/
inductive Executed (a : Arguments) (here : Machine ε) : Nat → Machine ε → Prop
  | none : Executed a here 0 here
  | more {i : Nat} {raw : String} {m m' : Machine ε} (hfirst : Executed a here i m)
      (hraw : a.string i "filename" = .ok raw)
      (hfile : RunCommand.executeFile E raw m = (.ok (), m')) : Executed a here (i + 1) m'

/-- The unit executes a script file, and what is run for it is the unit `v`. -/
def Executes (u v : UnitRun ε) : Prop :=
  ∃ values here i m, u.CallsUncaught E .execute values here ∧
    Executed E ⟨"execute", values⟩ here i m ∧
    (Arguments.mk "execute" values).string i "filename" = .ok v.origin ∧
    m.host.files.readText (m.host.resolve v.origin) = .ok v.source ∧
    v.options = .quiet ∧
    v.machine = RunCommand.executing v.origin m

/-- The unit asks to leave with a code, and the host is then `h`. -/
def Quits (code : Int) (h : Host) (u : UnitRun ε) : Prop :=
  ∃ values here, u.CallsUncaught E .quit values here ∧
    RunCommand.quitCode ⟨"quit", values⟩ = .ok code ∧ here.host = h

end UnitRun

/-- Units each of which executes the next one, and the last one asks to leave with a code on the
host `h`. -/
inductive QuitChain (E : Engine ε χ) (code : Int) (h : Host) : List (UnitRun ε) → Prop
  | quits {u : UnitRun ε} (hquits : u.Quits E code h) : QuitChain E code h [u]
  | executes {u v : UnitRun ε} {us : List (UnitRun ε)} (hexecutes : u.Executes E v)
      (hrest : QuitChain E code h (v :: us)) : QuitChain E code h (u :: v :: us)

namespace UnitRun

variable {E : Engine ε χ} {code : Int} {u v : UnitRun ε}

/-- A request to leave that a native call answers and the script does not catch is what the unit
asks for. -/
theorem CallsUncaught.asksToLeave {command : Command} {values : List Value}
    {here after : Machine ε} (hcalls : u.CallsUncaught E command values here)
    (hinvoke : command.invoke E values here = (.error (.command (.exit code)), after)) :
    ∃ m, u.result E = (.error (.exit code), m) ∧ m.host = after.host := by
  obtain ⟨chunk, hcompile, hfailure⟩ := hcalls
  obtain ⟨e', m, hwraps, hrun, hhost⟩ := hfailure _ _ hinvoke
  exact ⟨m, Engine.execute_eq_exit_iff.mpr ⟨chunk, e', hcompile, hrun, hwraps.exitRequest?⟩, hhost⟩

/-- After the first files it is the turn of the others. -/
theorem executeFrom_of_executed {a : Arguments} {here m : Machine ε} {i : Nat}
    (hfirst : Executed E a here i m) (n : Nat) :
    RunCommand.executeFrom E a (i + n) 0 here = RunCommand.executeFrom E a n i m := by
  -- On the files that have been run; the number of those to come grows as they are put back.
  induction hfirst generalizing n with
  | none => rw [Nat.zero_add]
  | more _ hraw hfile ih =>
      rw [Nat.add_right_comm, Nat.add_assoc, ih, RunCommand.executeFrom]
      simp only [hraw, hfile]

theorem lt_length_of_string {a : Arguments} {i : Nat} {name raw : String}
    (hraw : a.string i name = .ok raw) : i < a.values.length := by
  refine Nat.lt_of_not_le fun hle => ?_
  have habsent : a.values[i]? = none := List.getElem?_eq_none hle
  simp [Arguments.string, Arguments.get?, habsent] at hraw

/-- The first argument is there when a file has been named by any of them. -/
theorem get?_zero_of_executed {a : Arguments} {here m : Machine ε} {i : Nat} {raw : String}
    (hfirst : Executed E a here i m) (hraw : a.string i "filename" = .ok raw) :
    (a.get? 0).isSome := by
  have hnamed : ∀ {raw : String}, a.string 0 "filename" = .ok raw → (a.get? 0).isSome := by
    intro raw hzero
    cases hget : a.get? 0 with
    | none => simp [Arguments.string, hget] at hzero
    | some value => rfl
  induction hfirst generalizing raw with
  | none => exact hnamed hraw
  | more _ hraw' _ ih => exact ih hraw'

/-- The command that executes some files fails as the first one does that does not come to its end,
on the machine as that file has left it. -/
theorem invoke_execute_of_error {values : List Value} {here m m' : Machine ε} {i : Nat}
    {raw : String} {e : EngineError} (hfirst : Executed E ⟨"execute", values⟩ here i m)
    (hraw : (Arguments.mk "execute" values).string i "filename" = .ok raw)
    (hfile : RunCommand.executeFile E raw m = (.error e, m')) :
    Command.execute.invoke E values here = (.error e, m') := by
  obtain ⟨n, hlength⟩ : ∃ n, values.length = i + (n + 1) :=
    ⟨values.length - i - 1, by have := lt_length_of_string hraw; simp at this; omega⟩
  have hfrom : RunCommand.executeFrom E ⟨"execute", values⟩ values.length 0 here =
      (.error e, m') := by
    rw [hlength, executeFrom_of_executed hfirst, RunCommand.executeFrom]
    simp only [hraw, hfile]
  obtain ⟨value, hvalue⟩ := Option.isSome_iff_exists.mp (get?_zero_of_executed hfirst hraw)
  simp only [Command.invoke, RunCommand.execute, hvalue, hfrom]

/-- When the unit of a file asks to leave, so does the command that executes the file, on the
machine as that unit has left it. -/
theorem invoke_execute_of_exit {values : List Value} {here m m' : Machine ε} {i : Nat}
    (hfirst : Executed E ⟨"execute", values⟩ here i m)
    (hraw : (Arguments.mk "execute" values).string i "filename" = .ok v.origin)
    (htext : m.host.files.readText (m.host.resolve v.origin) = .ok v.source)
    (hoptions : v.options = .quiet)
    (hmachine : v.machine = RunCommand.executing v.origin m)
    (hexit : v.result E = (.error (.exit code), m')) :
    Command.execute.invoke E values here = (.error (.command (.exit code)), m') := by
  refine invoke_execute_of_error hfirst hraw ?_
  rw [result, hoptions, hmachine] at hexit
  simp only [RunCommand.executeFile_of_text htext, hexit, RunCommand.afterScript]

theorem Quits.asksToLeave {h : Host} (hquits : u.Quits E code h) :
    ∃ m, u.result E = (.error (.exit code), m) ∧ m.host = h := by
  obtain ⟨values, here, hcalls, hcode, rfl⟩ := hquits
  exact hcalls.asksToLeave (by simp only [Command.invoke, Command.onHost, RunCommand.quit, hcode])

theorem Executes.asksToLeave {m : Machine ε} (hexecutes : u.Executes E v)
    (hexit : v.result E = (.error (.exit code), m)) :
    ∃ m', u.result E = (.error (.exit code), m') ∧ m'.host = m.host := by
  obtain ⟨values, here, i, before, hcalls, hfirst, hraw, htext, hoptions, hmachine⟩ := hexecutes
  exact hcalls.asksToLeave (invoke_execute_of_exit hfirst hraw htext hoptions hmachine hexit)

end UnitRun

/-- Every unit of a chain asks to leave with the code of the last one, and after each of them the
host is as the request has found it: none of them has written anything about it. -/
theorem QuitChain.asksToLeave {E : Engine ε χ} {code : Int} {h : Host} {us : List (UnitRun ε)}
    (hchain : QuitChain E code h us) :
    ∀ u ∈ us, ∃ m, u.result E = (.error (.exit code), m) ∧ m.host = h := by
  induction hchain with
  | quits hquits =>
      intro u hu
      obtain rfl := List.mem_singleton.mp hu
      exact hquits.asksToLeave
  | @executes u v us hexecutes _ ih =>
      intro w hw
      rcases List.mem_cons.mp hw with rfl | hrest
      -- What the rest of the chain comes to is handed on by its first unit.
      · obtain ⟨m, hexit, hhost⟩ := ih v List.mem_cons_self
        obtain ⟨m', hexit', hhost'⟩ := hexecutes.asksToLeave hexit
        exact ⟨m', hexit', hhost'.trans hhost⟩
      · exact ih w hrest

end LuaShell
