import LuaShell.Script.Unit

/-!
# What a unit comes to

A unit asks to leave, fails, or yields values.  It asks to leave when the failure that ends
its run is a request to leave, wrapped by native functions any number of times
(`execute_eq_exit_iff`).  It fails when it does not compile or when its run ends in any
other failure (`execute_eq_failed_iff`).
-/

namespace LuaShell

namespace Host

/-! ## Records of a host -/

@[simp] theorem record_files (h : Host) (level : Log.Level) (target message : String) :
    (h.record level target message).files = h.files := by
  unfold record
  split <;> rfl

@[simp] theorem record_directory (h : Host) (level : Log.Level) (target message : String) :
    (h.record level target message).directory = h.directory := by
  unfold record
  split <;> rfl

@[simp] theorem record_spawner (h : Host) (level : Log.Level) (target message : String) :
    (h.record level target message).spawner = h.spawner := by
  unfold record
  split <;> rfl

/-- A host that writes no log stays as it is. -/
theorem record_of_off {h : Host} (hoff : h.log = .off) (level : Log.Level)
    (target message : String) : h.record level target message = h := by
  simp [record, hoff, Log.Filter.admits, Log.Filter.deciding?, Log.Filter.off]

end Host

/-! ## Units -/

namespace EngineError

/-- A failure after it has passed through native functions, each of which has wrapped it. -/
inductive Wraps (e : EngineError) : EngineError → Prop
  | refl : Wraps e e
  | callback {e' : EngineError} (traceback : String) (h : Wraps e e') :
      Wraps e (.callback traceback e')

/-- However often a request to leave has been wrapped, it is found. -/
theorem Wraps.exitRequest? {e e' : EngineError} (h : e.Wraps e') :
    e'.exitRequest? = e.exitRequest? := by
  induction h with
  | refl => rfl
  | callback traceback _ ih => exact ih

end EngineError

namespace Engine

/-- An engine that runs nothing: its chunks are their sources, and its state counts the tables that
it has made. -/
def idle : Engine Nat String where
  compile source _ := .ok source
  run _ m := (.ok [], m)
  call _ _ m := (.ok [], m)
  getGlobal _ m := (.ok .nil, m)
  setGlobal _ _ m := (.ok (), m)
  makeHook _ m := (.nil, m)
  makeTable _ m := (.table m.engine, { m with engine := m.engine + 1 })
  entries _ _ := []

variable {ε χ : Type}

/-- The machine on which a unit is run: its start has been recorded. -/
def noted (source origin : String) (m : Machine ε) : Machine ε :=
  m.mapHost (·.record .trace "luash::script"
    s!"executing {origin} ({source.utf8ByteSize} bytes)")

theorem noted_of_off {m : Machine ε} (hoff : m.host.log = .off) (source origin : String) :
    noted source origin m = m := by
  rw [noted, Machine.mapHost, Host.record_of_off hoff]

variable (E : Engine ε χ)

/-- The run of a unit ends in a request to leave with this code. -/
def UnitExits (code : Int) (source origin : String) (options : UnitOptions)
    (m : Machine ε) : Prop :=
  ∃ chunk e, E.compileUnit source origin options.printResult = .ok chunk ∧
    (E.run chunk (noted source origin m)).1 = .error e ∧ e.exitRequest? = some code

/-- A unit does not compile, or its run ends in a failure that is no request to leave. -/
def UnitFails (source origin : String) (options : UnitOptions) (m : Machine ε) : Prop :=
  (∃ e, E.compileUnit source origin options.printResult = .error e) ∨
    ∃ chunk e, E.compileUnit source origin options.printResult = .ok chunk ∧
      (E.run chunk (noted source origin m)).1 = .error e ∧ e.exitRequest? = none

variable {E} {source origin : String} {options : UnitOptions} {m : Machine ε} {code : Int}

theorem execute_of_compile_error {e : EngineError}
    (hcompile : E.compileUnit source origin options.printResult = .error e) :
    E.execute source origin options m =
      fail .compile e source origin options (noted source origin m) := by
  simp only [execute, hcompile, noted]

theorem execute_of_compile_ok {chunk : χ}
    (hcompile : E.compileUnit source origin options.printResult = .ok chunk) :
    E.execute source origin options m =
      match E.run chunk (noted source origin m) with
      | (.ok values, m') => (.ok values, E.printResult options values m')
      | (.error e, m') => match e.exitRequest? with
        | some code => (.error (.exit code), m')
        | none => fail .runtime e source origin options m' := by
  unfold execute
  rw [hcompile]
  rfl

/-- A unit asks to leave exactly when its run ends in a request to leave, and the machine is as
the run has left it. -/
theorem execute_eq_exit_iff {m' : Machine ε} :
    E.execute source origin options m = (.error (.exit code), m') ↔
      ∃ chunk e, E.compileUnit source origin options.printResult = .ok chunk ∧
        E.run chunk (noted source origin m) = (.error e, m') ∧ e.exitRequest? = some code := by
  cases hcompile : E.compileUnit source origin options.printResult with
  | error e => simp [execute_of_compile_error hcompile, fail]
  | ok chunk =>
      rw [execute_of_compile_ok hcompile]
      rcases hrun : E.run chunk (noted source origin m) with ⟨answer, after⟩
      cases answer with
      | ok values => simp [hrun]
      | error e =>
          cases hexit : e.exitRequest? with
          | none => simp [hrun, hexit, fail]
          | some n =>
              simp only [hexit, Prod.mk.injEq, Except.error.injEq, ScriptError.exit.injEq,
                Except.ok.injEq]
              constructor
              · rintro ⟨rfl, rfl⟩
                exact ⟨chunk, e, rfl, hrun, hexit⟩
              · rintro ⟨_, _, rfl, hrun', hcode⟩
                rw [hrun] at hrun'
                cases hrun'
                exact ⟨Option.some.inj (hexit.symm.trans hcode), rfl⟩

theorem execute_fst_eq_exit_iff :
    (E.execute source origin options m).1 = .error (.exit code) ↔
      E.UnitExits code source origin options m := by
  constructor
  · intro hexit
    obtain ⟨chunk, e, hcompile, hrun, hcode⟩ := execute_eq_exit_iff.mp (Prod.ext hexit rfl)
    exact ⟨chunk, e, hcompile, by rw [hrun], hcode⟩
  · rintro ⟨chunk, e, hcompile, hrun, hcode⟩
    have hexit := execute_eq_exit_iff.mpr ⟨chunk, e, hcompile, Prod.ext hrun rfl, hcode⟩
    rw [hexit]

/-- A unit fails exactly when it does not compile or its run ends in any other failure. -/
theorem execute_eq_failed_iff :
    (∃ d, (E.execute source origin options m).1 = .error (.failed d)) ↔
      E.UnitFails source origin options m := by
  cases hcompile : E.compileUnit source origin options.printResult with
  | error e => simp [execute_of_compile_error hcompile, fail, UnitFails, hcompile]
  | ok chunk =>
      rw [execute_of_compile_ok hcompile]
      rcases hrun : E.run chunk (noted source origin m) with ⟨answer, after⟩
      cases answer with
      | ok values => simp [UnitFails, hcompile, hrun]
      | error e =>
          cases hexit : e.exitRequest? with
          | none => simp [UnitFails, hcompile, hrun, hexit, fail]
          | some n => simp [UnitFails, hcompile, hrun, hexit]

end Engine

end LuaShell
