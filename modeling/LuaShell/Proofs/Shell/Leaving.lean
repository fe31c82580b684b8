import LuaShell.Proofs.Script.Leaving
import LuaShell.Proofs.Shell.Actions
import Mathlib

/-!
# A request to leave reaches the end of the shell

The unit at the head of a chain of script files is started by an action of the command line or
by the lines that were typed at the prompt.  Either way the code that the last file asks for
is what the run of the shell answers, and nothing that was to come after is looked at
(`run_of_quitChain`).
-/

namespace LuaShell

variable {ε χ : Type} {reader : Loop.LineReader} {E : Engine ε χ}

namespace Loop

variable (reader E) in
/-- The loop reads lines, of which the last one completes the unit `u`; the units before that did
not ask to leave. -/
inductive Reads : List Line → String → Machine ε → UnitRun ε → Prop
  | unit {text buffer : String} {m : Machine ε}
      (hnonblank : (buffer.isEmpty && isBlankLine text) = false)
      (hcomplete : E.needsMoreInput (buffer ++ text ++ "\n") = false) :
      Reads [.text text] buffer m
        ⟨buffer ++ text ++ "\n", interactiveOrigin, .interactive,
          m.mapHost (beforeLine reader · buffer)⟩
  | blank {text buffer : String} {m : Machine ε} {lines : List Line} {u : UnitRun ε}
      (hblank : (buffer.isEmpty && isBlankLine text) = true)
      (hrest : Reads lines buffer (m.mapHost (beforeLine reader · buffer)) u) :
      Reads (.text text :: lines) buffer m u
  | more {text buffer : String} {m : Machine ε} {lines : List Line} {u : UnitRun ε}
      (hnonblank : (buffer.isEmpty && isBlankLine text) = false)
      (hmore : E.needsMoreInput (buffer ++ text ++ "\n") = true)
      (hrest : Reads lines (buffer ++ text ++ "\n") (m.mapHost (beforeLine reader · buffer)) u) :
      Reads (.text text :: lines) buffer m u
  | next {text buffer : String} {m m' : Machine ε} {lines : List Line} {u : UnitRun ε}
      {answer : Except ScriptError (List Lua.Value)}
      (hnonblank : (buffer.isEmpty && isBlankLine text) = false)
      (hcomplete : E.needsMoreInput (buffer ++ text ++ "\n") = false)
      (hunit : E.execute (buffer ++ text ++ "\n") interactiveOrigin .interactive
        (m.mapHost (beforeLine reader · buffer)) = (answer, m'))
      (hstays : ∀ code, answer ≠ .error (.exit code))
      (hrest : Reads lines "" m' u) : Reads (.text text :: lines) buffer m u

/-- The loop ends with the unit that asks to leave; the lines behind it are not read. -/
theorem run_of_reads {lines : List Line} {buffer : String} {m m' : Machine ε} {u : UnitRun ε}
    {code : Int} (hreads : Reads reader E lines buffer m u)
    (hexit : u.result E = (.error (.exit code), m')) (rest : List Line) :
    run reader E (lines ++ rest) buffer m = (.ok (some code), m') := by
  -- Along the lines that are read; only the last of them has to do with `u`.
  induction hreads with
  | unit hnonblank hcomplete =>
      simp only [UnitRun.result] at hexit
      simp [run, hnonblank, hcomplete, hexit]
  | blank hblank _ ih =>
      simp only [List.cons_append, run, hblank, if_true]
      exact ih hexit
  | more hnonblank hmore _ ih =>
      simp only [List.cons_append, run, hnonblank, hmore, Bool.false_eq_true, if_false, if_true]
      exact ih hexit
  | @next _ _ _ _ _ _ answer hnonblank hcomplete hunit hstays _ ih =>
      simp only [List.cons_append, run, hnonblank, hcomplete, hunit, Bool.false_eq_true, if_false]
      rcases answer with (d | n) | values
      · exact ih hexit
      · exact absurd rfl (hstays n)
      · exact ih hexit

variable (E) in
/-- The machine on which the loop reads its first line. -/
def opened (m : Machine ε) : Machine ε :=
  (Shell.banner E m).2.mapHost fun h => { h.printLine (Shell.banner E m).1 with input := [] }

variable (E) in
/-- The lines that the loop has before it. -/
def awaited (m : Machine ε) : List Line :=
  readLines (Shell.banner E m).2.host.input

theorem start_eq (m : Machine ε) :
    start reader E m = run reader E (awaited E m) "" (opened E m) := rfl

end Loop

namespace Shell

/-- The unit that an action starts, unless its file cannot be read. -/
def unitOf? (s : Shell ε) : Startup → Option (UnitRun ε)
  | .inline source => some ⟨source, inlineOrigin, .batch, s.machine⟩
  | .file path => (fileText path s).toOption.map fun text => ⟨text, path, .batch, announced path s⟩
  | _ => none

theorem apply_unit {action : Startup} {s : Shell ε} {u : UnitRun ε}
    (hunit : unitOf? s action = some u) :
    (apply E action s).1 = flowOf (u.result E).1 ∧
      (apply E action s).2.machine = (u.result E).2 := by
  cases action with
  | inline source =>
      obtain rfl := Option.some.inj hunit
      rw [apply_inline]
      exact ⟨rfl, rfl⟩
  | file path =>
      cases htext : fileText path s with
      | error e => simp [unitOf?, htext, Except.toOption] at hunit
      | ok text =>
          simp only [unitOf?, htext, Except.toOption, Option.map_some, Option.some.injEq] at hunit
          subst hunit
          rw [apply_file_of_ok htext]
          exact ⟨rfl, rfl⟩
  | _ => cases hunit

/-- When the last file of a chain asks to leave, every unit of the chain does so with its code, on
the host as the request has found it.  The run of the shell answers the code, whether the first
unit is that of an action or what was typed at the prompt, and whatever comes behind that. -/
theorem run_of_quitChain {code : Int} {h : Host} {u : UnitRun ε} {us : List (UnitRun ε)}
    (hchain : QuitChain E code h (u :: us)) :
    (∀ v ∈ u :: us, ∃ m, v.result E = (.error (.exit code), m) ∧ m.host = h) ∧
    (∀ before action s s', Passes E before s s' → unitOf? s' action = some u →
      ∃ s'', s''.machine = (u.result E).2 ∧ s''.machine.host = h ∧
        ∀ rest, run E (before ++ action :: rest) s = (.ok code, s'')) ∧
    ∀ actions s s' lines rest, Passes E actions s s' → s'.runShell = true →
      Loop.awaited E s'.machine = lines ++ rest →
      Loop.Reads Loop.piped E lines "" (Loop.opened E s'.machine) u →
      ∃ m, m = (u.result E).2 ∧ m.host = h ∧
        run E actions s = (.ok code, { s' with machine := m }) := by
  have hunits := hchain.asksToLeave
  obtain ⟨m, hexit, hhost⟩ := hunits u List.mem_cons_self
  refine ⟨hunits, ?_, ?_⟩
  · intro before action s s' hpasses hunit
    obtain ⟨hflow, hmachine⟩ := apply_unit (E := E) hunit
    rw [hexit] at hflow hmachine
    refine ⟨(apply E action s').2, by rw [hmachine, hexit], by rw [hmachine, hhost], fun rest => ?_⟩
    rw [run_of_passes hpasses, run_of_asksToLeave (apply_fst_eq_exit_iff.mp hflow)]
  · intro actions s s' lines rest hpasses hon hlines hreads
    refine ⟨m, by rw [hexit], hhost, ?_⟩
    have hloop : Loop.start Loop.piped E s'.machine = (.ok (some code), m) := by
      rw [Loop.start_eq, hlines]
      exact Loop.run_of_reads hreads hexit rest
    have hrun : run E actions s = finish E s' := by
      simpa [run] using run_of_passes hpasses []
    simp [hrun, finish, hon, hloop, Except.map]

/-- A source from the command line executes a file that asks to leave with the code seven.  The loop
was to start after it, and any further actions were to come. -/
theorem run_of_quitChain_inline :
    let E : Engine Nat String :=
      { Engine.idle with run := fun _ m => (.error (.callback "" (.command (.exit 7))), m) }
    let fs : FileSystem :=
      ⟨.dir [(Text.toBytes "b", .file 0)], #[⟨"quit(7)".toUTF8, File.defaultMode⟩], none⟩
    let h : Host := ⟨fs, [], ⟨Path.ofString "/", none⟩, .plain, .unsupported, .off, [], .empty,
      .empty, #[], 0, 0⟩
    let s : Shell Nat := ⟨⟨h, 0⟩, .empty, true⟩
    let source := "execute('b')"
    let u : UnitRun Nat := ⟨source, inlineOrigin, .batch, s.machine⟩
    let v : UnitRun Nat := ⟨"quit(7)", "b", .quiet, s.machine⟩
    QuitChain E 7 h [u, v] ∧ ∃ s', s'.machine.host = h ∧
      ∀ rest, run E (.shell :: .inline source :: rest) s = (.ok 7, s') := by
  intro E fs h s source u v
  have hnoted : ∀ source origin, Engine.noted source origin s.machine = s.machine :=
    Engine.noted_of_off rfl
  -- No chunk catches anything, so a call that asks to leave is what its run ends in.
  have hcalls : ∀ (w : UnitRun Nat) (command : Command) (values : List Lua.Value),
      w.machine = s.machine →
      command.invoke E values s.machine = (.error (.command (.exit 7)), s.machine) →
      w.CallsUncaught E command values s.machine := by
    intro w command values hmachine hinvoke
    obtain ⟨chunk, hcompile⟩ :
        ∃ chunk, E.compileUnit w.source w.origin w.options.printResult = .ok chunk := by
      unfold Engine.compileUnit
      split <;> exact ⟨_, rfl⟩
    refine ⟨chunk, hcompile, fun e after hfails => ?_⟩
    rw [hinvoke] at hfails
    cases hfails
    refine ⟨_, Engine.noted w.source w.origin w.machine, .callback "" .refl, rfl, ?_⟩
    rw [hmachine, hnoted]
  have hquits : v.Quits E 7 h :=
    ⟨[.int 7], s.machine, hcalls v .quit _ rfl rfl, rfl, rfl⟩
  have hraw : (Arguments.mk "execute" [.ofString "b"]).string 0 "filename" = .ok "b" := by cbv
  have htext : fs.readText (h.resolve "b") = .ok "quit(7)" := by cbv
  have hmachine : v.machine = RunCommand.executing v.origin s.machine :=
    (RunCommand.executing_of_off rfl _).symm
  have hexecutes : u.Executes E v := by
    have hexit : v.result E = (.error (.exit 7), s.machine) :=
      Engine.execute_eq_exit_iff.mpr ⟨"quit(7)", _, rfl, Prod.ext rfl (hnoted _ _), rfl⟩
    have hinvoke := UnitRun.invoke_execute_of_exit .none hraw htext rfl hmachine hexit
    exact ⟨_, _, 0, s.machine, hcalls u .execute _ rfl hinvoke, .none, hraw, htext, rfl, hmachine⟩
  have hchain : QuitChain E 7 h [u, v] := .executes hexecutes (.quits hquits)
  obtain ⟨-, haction, -⟩ := run_of_quitChain hchain
  have hpasses : Passes E [.shell] s s :=
    .cons (fun h => h) (fun _ h => h) (.nil s)
  obtain ⟨s', -, hhost, hrun⟩ := haction [.shell] (.inline source) s s hpasses rfl
  exact ⟨hchain, s', hhost, hrun⟩

end Shell

end LuaShell
