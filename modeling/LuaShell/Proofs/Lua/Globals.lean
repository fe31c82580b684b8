import LuaShell.Lua.Interpreter

/-!
# The globals of Lua

From outside a script a global is assigned in a native call of its own, whose errors are caught
and handled.  None of that is needed for globals without a metatable: the assignment changes
their table and nothing else, and it is not refused (`Interpreter.setGlobal_of_plain`).
-/

namespace LuaShell.Lua

/-! ## Acts that do not fail -/

namespace Act

/-- An act leads from one state to another and does not fail, whatever the running thread is
doing; that goes on as before. -/
structure Quiet {α : Type} (act : Act α) (h : Host) (s s' : State) (a : α) : Prop where
  run_eq : s'.run = s.run
  act_eq : ∀ f, act ⟨h, s.modifyRun f⟩ = (.ok a, ⟨h, s'.modifyRun f⟩)

variable {h : Host} {s s' : State}

/-- The frame of a native call is put on the list of calls and taken off again. -/
theorem Quiet.inNative {α : Type} {act : Act α} {a : α} (hact : act.Quiet h s s' a) :
    Act.Quiet (Raise.inNative act) h s s' a := by
  refine ⟨hact.run_eq, fun f => ?_⟩
  let top := (s.modifyRun f).topPlace
  let frame : Frame := .native ⟨none, top, top + 1, .nothing, .host, 0⟩
  have hcall : act ⟨h, (s.modifyRun f).pushFrame frame⟩ =
      (.ok a, ⟨h, (s'.modifyRun f).pushFrame frame⟩) :=
    hact.act_eq fun r => { f r with frames := frame :: (f r).frames }
  simp only [Raise.inNative]
  rw [hcall]
  rfl

/-- With no error there is nothing to catch. -/
theorem Quiet.attempt {act : Act (List Value)} {vs : List Value} (hact : act.Quiet h s s' vs)
    (k : Kernel) (calls : Calls) (f : Activity → Activity) :
    k.attempt calls act ⟨h, s.modifyRun f⟩ = (.ok (.ok vs), ⟨h, s'.modifyRun f⟩) := by
  have hbefore := hact.act_eq fun r => { f r with mayYield := false }
  simp only [Kernel.attempt]
  unfold State.modifyRun at *
  rw [hbefore]
  simp only [hact.run_eq]

/-- A table without a metatable takes an assignment itself. -/
theorem assign_of_plain (calls : Calls) {id : Nat} (hplain : (s.table id).metatable = none)
    (name : String) (v : Value) :
    assign calls (.table id) (.ofString name) v ⟨h, s⟩ =
      (.ok (), ⟨h, s.modifyTable id (·.set (.ofString name) v)⟩) := by
  have htarget : s.assignTarget (.table id) (.ofString name) v .elsewhere = .inl id := by
    unfold State.assignTarget State.maxChain
    simp only [State.assignTarget.follow, hplain]
    rfl
  simp only [assign, bind, ExceptT.bind, ExceptT.mk, StateT.bind, ofState, ExceptT.bindCont,
    htarget]
  rfl

end Act

/-! ## Globals -/

namespace Interpreter

variable {h : Host} {s s' : State}

theorem guarded_of_quiet {act : Act (List Value)} {vs : List Value} (hact : act.Quiet h s s' vs)
    (k : Kernel) (n : Nat) : guarded (k.calls (n + 1)) act ⟨h, s⟩ = (.ok vs, ⟨h, s'⟩) := by
  have hattempt := hact.inNative.attempt k (k.calls n) fun r => { r with handler := .traceback }
  have hcalls : (k.calls (n + 1)).attempt (Raise.inNative act) =
      k.attempt (k.calls n) (Raise.inNative act) := rfl
  unfold guarded
  unfold State.modifyRun at *
  rw [hcalls]
  unfold ExceptT.run
  dsimp only at hattempt ⊢
  rw [hattempt]
  simp only [answer, ← hact.run_eq]

/-- Globals without a metatable take every assignment. -/
theorem setGlobal_of_plain (dispatch : Dispatch)
    (hplain : (s.table s.globals).metatable = none) (name : String) (v : Value) :
    (engine dispatch).setGlobal name v ⟨h, s⟩ =
      (.ok (), ⟨h, s.modifyTable s.globals (·.set (.ofString name) v)⟩) := by
  let calls := (kernel dispatch).allCalls
  let assigning : Act (List Value) := do
    Act.assign calls (.table s.globals) (.ofString name) v
    return []
  have hquiet : assigning.Quiet h s (s.modifyTable s.globals (·.set (.ofString name) v)) [] := by
    refine ⟨rfl, fun f => ?_⟩
    -- What the thread is doing has nothing to do with the tables.
    have hplain' : ((s.modifyRun f).table s.globals).metatable = none := hplain
    simp only [assigning, bind, ExceptT.bind, ExceptT.mk, StateT.bind, ExceptT.bindCont,
      Act.assign_of_plain calls hplain' name v]
    rfl
  have hguarded : guarded calls assigning ⟨h, s⟩ = _ :=
    guarded_of_quiet hquiet (kernel dispatch) (maxReportDepth + 9)
  simp only [engine, engineOf]
  split
  · next hrun =>
      cases hguarded.symm.trans hrun
      rfl
  · next hrun => cases hguarded.symm.trans hrun

end Interpreter

end LuaShell.Lua
