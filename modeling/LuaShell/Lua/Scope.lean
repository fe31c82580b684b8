import LuaShell.Lua.Operand

/-!
# Variables, blocks and jumps

Which variable a name stands for, in this function or as an upvalue from one around
it; blocks, which end variables; and labels and the jumps to them.  A jump waits in
its block until the label comes, and moves out with the end of the block; it must not
enter the scope of a variable.
-/

namespace LuaShell.Lua

namespace Parse

/-! ## Variables -/

/-- How many variables a function can have at one time. -/
def maxLocals : Nat := 200

/-- How many variables of functions around it a function can use. -/
def maxUpvalues : Nat := 255

/-- Declare a variable, which is not in scope yet; answers its number. -/
def declare (name : String) (role : VarRole) : Parse Nat := do
  let f ← scope
  if maxLocals < f.vars.size + 1 then failLimit f.line "local variables" maxLocals
  modifyScope fun f => { f with vars := f.vars.push ⟨name, .register 0 role, none⟩ }
  return f.vars.size

/-- Give a declared variable its role. -/
def setRole (number : Nat) (role : VarRole) : Parse Unit :=
  modifyScope fun f => { f with vars := f.vars.modify number fun v =>
    { v with kind := .register 0 role } }

/-- Bring declared variables into scope; they get the registers after those of the variables
before them. -/
def activate : Nat → Parse Unit
  | 0 => return ()
  | n + 1 => do
      modifyScope fun f =>
        let r := f.level
        { f with
          vars := f.vars.modify f.active fun v => match v.kind with
            | .register _ role => { v with kind := .register r role, entry := some f.names.size }
            | .known _ => v
          names := f.names.push ⟨((f.vars[f.active]?).getD default).name, f.code.size, 0⟩
          active := f.active + 1 }
      activate n

/-- Bring a declared variable into scope whose value is known. -/
def activateKnown (v : Value) : Parse Unit :=
  modifyScope fun f =>
    { f with
      vars := f.vars.modify f.active fun x => { x with kind := .known v }
      active := f.active + 1 }

/-- End the scope of all variables but the first ones. -/
def deactivate (count : Nat) : Parse Unit :=
  modifyScope fun f =>
    let names := (f.vars.extract count f.active).foldl (fun names v => match v.entry with
      | some i => names.modify i fun n => { n with stop := f.code.size }
      | none => names) f.names
    { f with names := names, vars := f.vars.take count, active := count }

/-- The number of the variable in scope that has a name, the last one if there are several. -/
def findLocal? (f : FunctionScope) (name : String) : Option Nat :=
  search f.active
where
  search : Nat → Option Nat
    | 0 => none
    | n + 1 => if ((f.vars[n]?).map (·.name)) == some name then some n else search n

/-- Note that the block of a variable has something to close. -/
def keepLocal (number : Nat) (f : FunctionScope) : FunctionScope :=
  { f with blocks := go f.blocks, needsClose := true }
where
  go : List BlockScope → List BlockScope
    | [] => []
    | b :: bs => if number < b.active then b :: go bs else { b with hasUpvalue := true } :: bs

/-- Note that a variable of the innermost block has to be closed. -/
def markClose : Parse Unit :=
  modifyScope fun f =>
    { f with
      needsClose := true
      blocks := match f.blocks with
        | b :: bs => { b with hasUpvalue := true, isInsideClose := true } :: bs
        | [] => [] }

/-- What a name stands for in the innermost of some functions, and these functions, in which
variables on the way may have become upvalues; `isOwn` if it is used there and not further
inside. -/
def resolveIn (name : String) :
    Bool → List FunctionScope → Parse (Operand × List FunctionScope)
  | _, [] => return (.void, [])
  | isOwn, f :: outer => match findLocal? f name with
    | some number => match ((f.vars[number]?).getD default).kind with
      | .known v => return (.known name v, f :: outer)
      | .register r _ =>
          return (.variable r number, (if isOwn then f else keepLocal number f) :: outer)
    | none => match f.upvalues.findIdx? (·.name == some name) with
      | some i => return (.upvalue i, f :: outer)
      | none => do
          let (e, outer) ← resolveIn name false outer
          let add (inStack : Bool) (index : Nat) (role : VarRole) :
              Parse (Operand × List FunctionScope) := do
            if maxUpvalues < f.upvalues.size + 1 then failLimit f.line "upvalues" maxUpvalues
            let u : UpvalueInfo := ⟨some name, inStack, index, role⟩
            return (.upvalue f.upvalues.size,
              { f with upvalues := f.upvalues.push u } :: outer)
          let around := (outer.head?).getD default
          match e with
          | .variable r number => match ((around.vars[number]?).getD default).kind with
            | .register _ role => add true r role
            | .known _ => add true r .plain
          | .upvalue i => add false i ((around.upvalues[i]?).map (·.role) |>.getD .plain)
          | e => return (e, f :: outer)

/-- What a name stands for; nothing if it is no variable. -/
def resolve (name : String) : Parse Expr := do
  let (e, functions) ← resolveIn name true (← get).functions
  modify fun s => { s with functions := functions }
  return .of e

/-- The name of the table in which names are looked up that are no variables. -/
def environment : String := "_ENV"

/-- A variable, or else a field of the environment. -/
def named (name : String) : Parse Expr := do
  let e ← resolve name
  match e.kind with
  | .void =>
      let table ← toAnyRegisterOrUpvalue (← resolve environment)
      indexed table (.of (.str name.toUTF8))
  | _ => return e

/-- Fail if an expression is a variable that cannot be assigned to. -/
def checkAssignable (e : Expr) : Parse Unit := do
  let f ← scope
  let name? : Option String := match e.kind with
    | .known name _ => some name
    | .variable _ number => match f.vars[number]? with
      | some ⟨name, .register _ role, _⟩ => if role = .plain then none else some name
      | _ => none
    | .upvalue i => match f.upvalues[i]? with
      | some u => if u.role = .plain then none else u.name
      | none => none
    | _ => none
  match name? with
  | some name => failMeaning s!"attempt to assign to const variable '{name}'"
  | none => return ()

/-! ## Jumps and labels -/

/-- Note a jump whose label has not come yet; `none` leaves the loop. -/
def noteJump (label : Option String) (line : Nat) (places : List Nat) : Parse Unit :=
  modifyScope fun f =>
    { f with jumps := f.jumps.push ⟨label, line, places, f.active, f.level, false⟩ }

/-- A label that is in scope. -/
def findLabel? (name : String) : Parse (Option LabelMark) :=
  ofScope fun f => f.labels.find? (·.name = name)

/-- Fail if there is a label of this name already. -/
def checkLabel (name : String) : Parse Unit := do
  match ← findLabel? name with
  | some l => failMeaning s!"label '{name}' already defined on line {l.line}"
  | none => return ()

/-- Let the jumps from a number on that wait for a label come to it. Answers whether one of
them has something to close. -/
def solveJumps (label : Option String) (place active : Nat) :
    List PendingJump → Parse (Bool × List PendingJump)
  | [] => return (false, [])
  | j :: js => do
      if j.label = label then
        if j.active < active then
          let name ← ofScope fun f => ((f.vars[j.active]?).getD default).name
          let target := label.getD "break"
          failMeaning (s!"<goto {target}> at line {j.line} jumps into the scope " ++
            s!"of local '{name}'")
        patch j.places place
        let (closes, rest) ← solveJumps label place active js
        return (closes || j.closes, rest)
      else
        let (closes, rest) ← solveJumps label place active js
        return (closes, j :: rest)

/-- Put a label here, which the jumps of the innermost block that wait for it come to. At
the end of a block its variables count as gone. Answers whether something had to be closed. -/
def putLabel (label : Option String) (line : Nat) (isLast : Bool) : Parse Bool := do
  let place ← mark
  let f ← scope
  let outer := (f.blocks.head?).map (·.active) |>.getD 0
  let active := if isLast then outer else f.active
  if let some name := label then
    modifyScope fun f =>
      { f with labels := f.labels.push ⟨name, line, place, active, f.levelOf active⟩ }
  let first := (f.blocks.head?).map (·.jumps) |>.getD 0
  let (closes, rest) ← solveJumps label place active (f.jumps.toList.drop first)
  modifyScope fun f => { f with jumps := f.jumps.take first ++ rest.toArray }
  if closes then emit_ (.close (← scope).level)
  return closes

/-! ## Blocks -/

/-- Open a block. -/
def openBlock (isLoop : Bool) : Parse Unit :=
  modifyScope fun f =>
    let inside := (f.blocks.head?).any (·.isInsideClose)
    { f with blocks := ⟨f.active, f.labels.size, f.jumps.size, isLoop, false, inside⟩ :: f.blocks }

/-- Fail because a jump has no label. -/
def failJump (j : PendingJump) : Parse Unit :=
  match j.label with
  | none => failMeaning s!"break outside loop at line {j.line}"
  | some name => failMeaning s!"no visible label '{name}' for <goto> at line {j.line}"

/-- Close the innermost block: its variables end, jumps that leave a loop come here, and
other jumps move to the block around it. Answers whether closures keep some of its variables. -/
def closeBlock : Parse Bool := do
  match (← scope).blocks with
  | [] => return false
  | b :: bs =>
      let level ← ofScope (·.levelOf b.active)
      deactivate b.active
      let hasClosed ← if b.isLoop then putLabel none 0 false else pure false
      let hasUpvalue ← ofScope fun f => ((f.blocks.head?).map (·.hasUpvalue)).getD false
      if !hasClosed && !bs.isEmpty && hasUpvalue then emit_ (.close level)
      modifyScope fun f =>
        { f with free := level, labels := f.labels.take b.labels, blocks := bs }
      if bs.isEmpty then
        match (← scope).jumps[b.jumps]? with
        | some j => failJump j
        | none => pure ()
      else
        modifyScope fun f =>
          { f with jumps := f.jumps.mapIdx fun i j =>
            if i < b.jumps then j
            else { j with
              active := b.active, level := level
              closes := j.closes || (level < j.level && hasUpvalue) } }
      return hasUpvalue

/-- Do something in a block of its own. -/
def inBlock {α : Type} (isLoop : Bool) (p : Parse α) : Parse α := do
  openBlock isLoop
  let a ← p
  let _ ← closeBlock
  return a

end Parse

end LuaShell.Lua
