import LuaShell.Lua.Reaction

/-!
# Steps of native code

What functions of the library are made of: reading their arguments, working on
objects, and calling back into the script.
-/

namespace LuaShell.Lua

namespace Act

/-! ## The state -/

/-- Read something off the state. -/
def ofState {α : Type} (f : State → α) : Act α :=
  fun w => (.ok (f w.engine), w)

/-- Change the state. -/
def change (f : State → State) : Act Unit :=
  fun w => (.ok (), { w with engine := f w.engine })

/-- Change the state and answer something. -/
def update {α : Type} (f : State → α × State) : Act α :=
  fun w =>
    let (a, s) := f w.engine
    (.ok a, { w with engine := s })

/-- Change the host. -/
def changeHost (f : Host → Host) : Act Unit :=
  fun w => (.ok (), w.mapHost f)

/-- Read something off the host. -/
def ofHost {α : Type} (f : Host → α) : Act α :=
  fun w => (.ok (f w.host), w)

/-- A new table. -/
def newTable (t : Table) : Act Value :=
  update (·.addTable t)

/-! ## Failing -/

/-- Fail with a message that gets the place of the caller. -/
def failBytes {α : Type} (message : ByteArray) : Act α :=
  throw (.message message)

/-- Fail with a message that gets the place of the caller. -/
def fail {α : Type} (message : String) : Act α :=
  throw (.message message.toUTF8)

/-- Fail with a message alone. -/
def failPlainly {α : Type} (message : ByteArray) : Act α :=
  throw (.raise (.str message))

/-- Fail because of an argument. -/
def failAt {α : Type} (i : Nat) (message : String) : Act α :=
  throw (.argument i message.toUTF8)

/-- Whether so many values have room on the stack. -/
def hasRoom (n : Nat) : Act Bool :=
  ofState fun s => s.topPlace + n ≤ maxStack

/-- See to it that so many values have room on the stack; the message says what they are. -/
def ensureRoom (n : Nat) (what : String) : Act Unit := do
  if !(← hasRoom n) then fail s!"stack overflow ({what})"

/-! ## Arguments, counted from one -/

/-- An argument, nil if it is not there. -/
def argument (args : List Value) (i : Nat) : Value :=
  (args[i - 1]?).getD .nil

/-- Whether an argument is not there or nil. -/
def isAbsent (args : List Value) (i : Nat) : Bool :=
  (argument args i).isNil

/-- The type of an argument in messages; any metatable can give it a name. -/
def typeOf (s : State) (args : List Value) (i : Nat) : ByteArray :=
  match args[i - 1]? with
  | some v => match s.ownTypeName? v with
    | some name => Value.untilZero name
    | none => v.typeName.toUTF8
  | none => "no value".toUTF8

/-- Fail because an argument is not of a type. -/
def failType {α : Type} (args : List Value) (i : Nat) (expected : String) : Act α := do
  let name ← ofState (typeOf · args i)
  throw (.argument i (s!"{expected} expected, got ".toUTF8 ++ name))

/-- An argument of any kind that has to be there. -/
def any (args : List Value) (i : Nat) : Act Value :=
  match args[i - 1]? with
  | some v => pure v
  | none => failAt i "value expected"

/-- A number. -/
def number (args : List Value) (i : Nat) : Act Value :=
  match (argument args i).asNumber? with
  | some v => pure v
  | none => failType args i "number"

/-- A number as a double. -/
def float (args : List Value) (i : Nat) : Act Float := do
  return ((← number args i).toFloat?).getD 0.0

/-- An integer. -/
def int (args : List Value) (i : Nat) : Act Int64 :=
  match (argument args i).asNumber? with
  | some v => match v.toInt? with
    | some n => pure n
    | none => failAt i "number has no integer representation"
  | none => failType args i "number"

/-- An integer that may be absent. -/
def intOr (args : List Value) (i : Nat) (otherwise : Int64) : Act Int64 :=
  if isAbsent args i then pure otherwise else int args i

/-- A string, or a number as one. -/
def bytes (args : List Value) (i : Nat) : Act ByteArray :=
  match (argument args i).asBytes? with
  | some b => pure b
  | none => failType args i "string"

/-- A string that may be absent. -/
def bytesOr (args : List Value) (i : Nat) (otherwise : ByteArray) : Act ByteArray :=
  if isAbsent args i then pure otherwise else bytes args i

/-- A string up to a byte zero. -/
def text (args : List Value) (i : Nat) : Act ByteArray :=
  return Value.untilZero (← bytes args i)

/-- A string up to a byte zero that may be absent. -/
def textOr (args : List Value) (i : Nat) (otherwise : ByteArray) : Act ByteArray :=
  return Value.untilZero (← bytesOr args i otherwise)

/-- A table. -/
def table (args : List Value) (i : Nat) : Act Nat :=
  match argument args i with
  | .table id => pure id
  | _ => failType args i "table"

/-- A function. -/
def function (args : List Value) (i : Nat) : Act Value :=
  match argument args i with
  | .func id => pure (.func id)
  | _ => failType args i "function"

/-- One of some words. -/
def option (args : List Value) (i : Nat) (otherwise : Option String) (words : List String) :
    Act String := do
  let word ← match otherwise with
    | some w => bytesOr args i w.toUTF8
    | none => bytes args i
  let word := Value.untilZero word
  match words.find? (·.toUTF8 == word) with
  | some w => return w
  | none => throw (.argument i ("invalid option '".toUTF8 ++ word ++ "'".toUTF8))

/-! ## Operations that may call the script -/

/-- Follow a reaction. -/
def perform (c : Calls) : Reaction → Act Value
  | .value v => pure v
  | .invoke f args => return ((← c.call f args).head?).getD .nil
  | .deny f args => return .bool !(((← c.call f args).head?).getD .nil).truthy
  | .fault cause => do failPlainly (← ofState (·.plainFaultText cause))

/-- Read a field. -/
def index (c : Calls) (object key : Value) : Act Value := do
  let v ← perform c (← ofState (·.index object key .elsewhere))
  match key with
  | .int _ => change (·.noteRead object key)
  | _ => pure ()
  return v

/-- Assign to a field. -/
def assign (c : Calls) (object key value : Value) : Act Unit := do
  match ← ofState (·.assignTarget object key value .elsewhere) with
  | .inl id => change (·.modifyTable id (·.set key value))
  | .inr r => let _ ← perform c r

/-- The length of a value. -/
def lengthValue (c : Calls) (v : Value) : Act Value := do
  let n ← perform c (← ofState (·.unary .len v .elsewhere))
  change (·.noteLength v)
  return n

/-- The length of a value as an integer. -/
def length (c : Calls) (v : Value) : Act Int64 := do
  match (← lengthValue c v).asInt? with
  | some n => return n
  | none => fail "object length is not an integer"

/-- Whether two values are equal. -/
def equal (c : Calls) (a b : Value) : Act Bool := do
  return (← perform c (← ofState (·.equal a b))).truthy

/-- Whether a value goes before another. -/
def less (c : Calls) (a b : Value) : Act Bool := do
  return (← perform c (← ofState (·.less false a b))).truthy

/-- Whether a value does not go after another. -/
def lessEqual (c : Calls) (a b : Value) : Act Bool := do
  return (← perform c (← ofState (·.less true a b))).truthy

/-- The text of a value. -/
def display (c : Calls) (v : Value) : Act ByteArray := do
  match ← ofState (·.metaField v "__tostring".toUTF8) with
  | .nil => match v with
    | .failure id => return (← ofState fun s =>
        (((s.failures[id]?).map EngineError.message).getD "").toUTF8)
    | .table id =>
        let name := (← ofState (·.ownTypeName? v)).getD "table".toUTF8
        return name ++ s!": {Value.address id 0}".toUTF8
    | v => return v.rawText
  | m => match ((← c.call m [v]).head?).getD .nil with
    | .str text => return text
    | v => match v.asBytes? with
      | some text => return text
      | none => fail "'__tostring' must return a string"

end Act

namespace NativeError

/-- The message about an argument: which one it is to the function, by the way in which the
function was called. -/
def argumentText (name : OperandName) (fallback : Option ByteArray) (i : Nat)
    (message : ByteArray) : ByteArray :=
  let note := " (".toUTF8 ++ message ++ ")".toUTF8
  let bad (i : Nat) (name : ByteArray) : ByteArray :=
    s!"bad argument #{i} to '".toUTF8 ++ name ++ "'".toUTF8 ++ note
  match name with
  | some ("method", name) =>
      if i = 1 then "calling '".toUTF8 ++ name ++ "' on bad self".toUTF8 ++ note
      else bad (i - 1) name
  | some (_, name) => bad i name
  | none => bad i (fallback.getD "?".toUTF8)

end NativeError

end LuaShell.Lua
