import LuaShell.Proofs.Script.Outcome
import LuaShell.Shell.Startup

/-!
# The actions of the command line, in order

An action ends the run when its unit fails or asks to leave, and no other action does
(`apply_fst_eq_exit_iff`, `apply_fst_eq_failed_iff`).  Actions that end nothing are carried
out one after the other (`Passes`), and the first that ends the run also ends what is done:
the shell stays as that action left it, whatever actions come behind it.  Whether the loop
starts after them is decided by the last action that turns it on or off.
-/

namespace LuaShell

namespace Shell

variable {ε χ : Type}

/-- The machine on which a script file is read and run: its start has been recorded. -/
def announced (path : String) (s : Shell ε) : Machine ε :=
  s.machine.mapHost (·.record .info "luash::shell" s!"running {path}")

/-- The text of a script file, if it can be read. -/
def fileText (path : String) (s : Shell ε) : Except IoError String :=
  s.machine.host.files.readText (s.machine.host.resolve path)

variable (E : Engine ε χ)

/-- The unit of an action fails: it does not compile, its run ends in a failure, or its file
cannot be read. -/
def Fails (s : Shell ε) : Startup → Prop
  | .inline source => E.UnitFails source inlineOrigin .batch s.machine
  | .file path => (∃ e, fileText path s = .error e) ∨
      ∃ text, fileText path s = .ok text ∧ E.UnitFails text path .batch (announced path s)
  | _ => False

/-- The unit of an action asks to leave with a code. -/
def AsksToLeave (code : Int) (s : Shell ε) : Startup → Prop
  | .inline source => E.UnitExits code source inlineOrigin .batch s.machine
  | .file path => ∃ text, fileText path s = .ok text ∧
      E.UnitExits code text path .batch (announced path s)
  | _ => False

/-- Actions that are carried out one after the other, none of which fails or asks to leave. -/
inductive Passes : List Startup → Shell ε → Shell ε → Prop
  | nil (s : Shell ε) : Passes [] s s
  | cons {action : Startup} {rest : List Startup} {s s' : Shell ε} (hfails : ¬ Fails E s action)
      (hleave : ∀ code, ¬ AsksToLeave E code s action)
      (hrest : Passes rest (apply E action s).2 s') : Passes (action :: rest) s s'

/-- An action that turns the loop on or off; a source from the command line turns it off. -/
def isSwitch : Startup → Bool
  | .shell | .noShell | .inline _ => true
  | _ => false

/-- The last action that turns the loop on or off. -/
def lastSwitch (actions : List Startup) : Option Startup :=
  (actions.filter isSwitch).getLast?

variable {E}

/-! ## One action -/

/-- What is to be done after a unit, by what the unit came to. -/
def flowOf : Except ScriptError (List Lua.Value) → Flow
  | .ok _ => .proceed
  | .error (.exit code) => .exit code
  | .error (.failed _) => .failed

theorem afterUnit_mapError (answer : Except ScriptError (List Lua.Value)) (m : Machine ε) :
    afterUnit (answer.mapError .script) m = (flowOf answer, m) := by
  cases answer with
  | ok values => rfl
  | error e => cases e <;> rfl

theorem apply_inline (source : String) (s : Shell ε) :
    apply E (.inline source) s =
      (flowOf (E.execute source inlineOrigin .batch s.machine).1,
        { s with
          machine := (E.execute source inlineOrigin .batch s.machine).2
          runShell := false }) := by
  simp only [apply, afterUnit_mapError]

/-- The record of the start changes neither the file nor where it is looked for. -/
theorem readText_announced (path : String) (s : Shell ε) :
    (announced path s).host.files.readText ((announced path s).host.resolve path) =
      fileText path s := by
  simp [announced, fileText, Machine.mapHost, Host.resolve]

theorem apply_file_of_ok {path text : String} {s : Shell ε}
    (htext : fileText path s = .ok text) :
    apply E (.file path) s =
      (flowOf (E.execute text path .batch (announced path s)).1,
        { s with machine := (E.execute text path .batch (announced path s)).2 }) := by
  have hread := (readText_announced path s).trans htext
  simp only [announced] at hread ⊢
  simp only [apply, runFile, hread, afterUnit_mapError]

theorem apply_file_of_error {path : String} {e : IoError} {s : Shell ε}
    (htext : fileText path s = .error e) :
    (apply E (.file path) s).1 = .failed := by
  have hread := (readText_announced path s).trans htext
  simp only [announced] at hread
  simp only [apply, runFile, hread, afterUnit]

theorem flowOf_eq_exit_iff {answer : Except ScriptError (List Lua.Value)} {code : Int} :
    flowOf answer = .exit code ↔ answer = .error (.exit code) := by
  cases answer with
  | ok values => simp [flowOf]
  | error e => cases e <;> simp [flowOf]

theorem flowOf_eq_failed_iff {answer : Except ScriptError (List Lua.Value)} :
    flowOf answer = .failed ↔ ∃ d, answer = .error (.failed d) := by
  cases answer with
  | ok values => simp [flowOf]
  | error e => cases e <;> simp [flowOf]

theorem apply_fst_eq_exit_iff {action : Startup} {s : Shell ε} {code : Int} :
    (apply E action s).1 = .exit code ↔ AsksToLeave E code s action := by
  cases action with
  | inline source =>
      rw [apply_inline, flowOf_eq_exit_iff, Engine.execute_fst_eq_exit_iff, AsksToLeave]
  | file path =>
      cases htext : fileText path s with
      | error e => simp [apply_file_of_error htext, AsksToLeave, htext]
      | ok text =>
          rw [apply_file_of_ok htext, flowOf_eq_exit_iff, Engine.execute_fst_eq_exit_iff]
          simp [AsksToLeave, htext]
  | _ => simp [apply, AsksToLeave]

theorem apply_fst_eq_failed_iff {action : Startup} {s : Shell ε} :
    (apply E action s).1 = .failed ↔ Fails E s action := by
  cases action with
  | inline source =>
      rw [apply_inline, flowOf_eq_failed_iff, Engine.execute_eq_failed_iff, Fails]
  | file path =>
      cases htext : fileText path s with
      | error e => simp [apply_file_of_error htext, Fails, htext]
      | ok text =>
          rw [apply_file_of_ok htext, flowOf_eq_failed_iff, Engine.execute_eq_failed_iff]
          simp [Fails, htext]
  | _ => simp [apply, Fails]

/-- An action whose unit neither fails nor asks to leave is followed by the next one. -/
theorem apply_fst_eq_proceed {action : Startup} {s : Shell ε} (hfails : ¬ Fails E s action)
    (hleave : ∀ code, ¬ AsksToLeave E code s action) : (apply E action s).1 = .proceed := by
  cases hflow : (apply E action s).1 with
  | proceed => rfl
  | failed => exact absurd (apply_fst_eq_failed_iff.mp hflow) hfails
  | exit code => exact absurd (apply_fst_eq_exit_iff.mp hflow) (hleave code)

/-! ## Many actions -/

theorem run_of_passes {before : List Startup} {s s' : Shell ε} (hpasses : Passes E before s s')
    (rest : List Startup) : run E (before ++ rest) s = run E rest s' := by
  induction hpasses with
  | nil s => rfl
  | cons hfails hleave _ ih =>
      rw [List.cons_append, run, ← ih]
      rcases happly : apply E _ _ with ⟨flow, after⟩
      have hflow := apply_fst_eq_proceed hfails hleave
      rw [happly] at hflow
      cases hflow
      rfl

/-- The first action that fails ends the run, and what comes behind it is not looked at. -/
theorem run_of_fails {action : Startup} {s : Shell ε} (hfails : Fails E s action)
    (rest : List Startup) : run E (action :: rest) s = (.ok 1, (apply E action s).2) := by
  have hflow := apply_fst_eq_failed_iff.mpr hfails
  rcases happly : apply E action s with ⟨flow, after⟩
  rw [happly] at hflow
  cases hflow
  simp only [run, happly]

/-- The first action that asks to leave ends the run with the code that it asks for. -/
theorem run_of_asksToLeave {action : Startup} {s : Shell ε} {code : Int}
    (hleave : AsksToLeave E code s action) (rest : List Startup) :
    run E (action :: rest) s = (.ok code, (apply E action s).2) := by
  have hflow := apply_fst_eq_exit_iff.mpr hleave
  rcases happly : apply E action s with ⟨flow, after⟩
  rw [happly] at hflow
  cases hflow
  simp only [run, happly]

/-- Either all actions pass, or there is a first one that fails or asks to leave. -/
theorem passes_or_stops (actions : List Startup) (s : Shell ε) :
    (∃ s', Passes E actions s s') ∨
      ∃ before action rest s', actions = before ++ action :: rest ∧ Passes E before s s' ∧
        (Fails E s' action ∨ ∃ code, AsksToLeave E code s' action) := by
  induction actions generalizing s with
  | nil => exact Or.inl ⟨s, .nil s⟩
  | cons action actions ih =>
      by_cases hstops : Fails E s action ∨ ∃ code, AsksToLeave E code s action
      · exact Or.inr ⟨[], action, actions, s, rfl, .nil s, hstops⟩
      · obtain ⟨hfails, hleave⟩ := not_or.mp hstops
        have hleave' : ∀ code, ¬ AsksToLeave E code s action := not_exists.mp hleave
        rcases ih (apply E action s).2 with ⟨s', hpasses⟩ | ⟨before, a, rest, s', rfl, hpasses, h⟩
        · exact Or.inl ⟨s', .cons hfails hleave' hpasses⟩
        · exact Or.inr ⟨action :: before, a, rest, s', rfl, .cons hfails hleave' hpasses, h⟩

/-! ## The switch of the loop -/

theorem lastSwitch_cons (action : Startup) (actions : List Startup) :
    lastSwitch (action :: actions) =
      (lastSwitch actions).or (if isSwitch action then some action else none) := by
  unfold lastSwitch
  by_cases hswitch : isSwitch action = true
  · rw [List.filter_cons_of_pos hswitch, if_pos hswitch, List.getLast?_cons]
    cases (actions.filter isSwitch).getLast? <;> rfl
  · rw [List.filter_cons_of_neg hswitch, if_neg hswitch, Option.or_none]

/-- One action turns the loop on or off as it says, and leaves the switch alone otherwise. -/
theorem apply_runShell (action : Startup) (s : Shell ε) :
    (apply E action s).2.runShell =
      if isSwitch action then decide (action = .shell) else s.runShell := by
  cases action with
  | inline source => rw [apply_inline]; rfl
  | _ => rfl

/-- After actions that pass the switch is where the last one that turns it has put it. -/
theorem runShell_of_passes {actions : List Startup} {s s' : Shell ε}
    (hpasses : Passes E actions s s') :
    s'.runShell = true ↔
      lastSwitch actions = some .shell ∨ lastSwitch actions = none ∧ s.runShell = true := by
  induction hpasses with
  | nil s => simp [lastSwitch]
  | @cons action rest s s' _ _ _ ih =>
      -- An action further on that turns the switch hides what this one has done to it.
      rw [ih, apply_runShell, lastSwitch_cons]
      cases hlast : lastSwitch rest with
      | some a => simp
      | none => by_cases hswitch : isSwitch action = true <;> simp [hswitch]

/-! ## The whole run -/

/-- When all actions pass, the loop runs if the last action that turns it says so, or none turns
it and it was on from the beginning; what the loop answers is the answer, the end of the input
counting as the code zero.  Otherwise there is a first action that fails or asks to leave: the
run answers the code one or the code that is asked for, and the shell is what this action makes
of it, whatever actions come behind it. -/
theorem run_actions (E : Engine ε χ) (actions : List Startup) (s : Shell ε) :
    (∃ s', Passes E actions s s' ∧
      (s'.runShell = true ↔
        lastSwitch actions = some .shell ∨ lastSwitch actions = none ∧ s.runShell = true) ∧
      (s'.runShell = false → run E actions s = (.ok 0, s')) ∧
      (s'.runShell = true →
        match Loop.start Loop.piped E s'.machine with
        | (.ok (some code), m) => run E actions s = (.ok code, { s' with machine := m })
        | (.ok none, m) => run E actions s = (.ok 0, { s' with machine := m })
        | (.error e, m) => run E actions s = (.error e, { s' with machine := m }))) ∨
    ∃ before action rest s', actions = before ++ action :: rest ∧ Passes E before s s' ∧
      ((Fails E s' action ∧
          ∀ rest', run E (before ++ action :: rest') s = (.ok 1, (apply E action s').2)) ∨
        ∃ code, AsksToLeave E code s' action ∧
          ∀ rest', run E (before ++ action :: rest') s = (.ok code, (apply E action s').2)) := by
  rcases passes_or_stops (E := E) actions s with ⟨s', hpasses⟩ | hstops
  · left
    have hrun : run E actions s = finish E s' := by
      simpa [run] using run_of_passes hpasses []
    refine ⟨s', hpasses, runShell_of_passes hpasses, ?_, ?_⟩
    · intro hoff
      simp [hrun, finish, hoff]
    · intro hon
      rcases hloop : Loop.start Loop.piped E s'.machine with ⟨answer, m⟩
      have hfinish : run E actions s = (answer.map (·.getD 0), { s' with machine := m }) := by
        simp [hrun, finish, hon, hloop]
      rcases answer with e | (_ | code) <;> simpa [Except.map] using hfinish
  · right
    obtain ⟨before, action, rest, s', rfl, hpasses, hfails | ⟨code, hleave⟩⟩ := hstops
    · refine ⟨before, action, rest, s', rfl, hpasses, Or.inl ⟨hfails, fun rest' => ?_⟩⟩
      rw [run_of_passes hpasses, run_of_fails hfails]
    · refine ⟨before, action, rest, s', rfl, hpasses, Or.inr ⟨code, hleave, fun rest' => ?_⟩⟩
      rw [run_of_passes hpasses, run_of_asksToLeave hleave]

end Shell

end LuaShell
