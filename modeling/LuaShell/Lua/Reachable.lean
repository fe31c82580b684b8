import LuaShell.Lua.State

/-!
# Objects in use

An object is in use if it can be reached: from the globals, from what the library keeps,
or from a thread that is reached.  A weak table lets go of its keys or its values.  An
entry of a table with weak keys leads to its value only if something else leads to the
key, so reaching goes on until no entry leads any further.

An object that asked for it is told when it is not in use any more.  It and what it
leads to are in use once more until then, but weak values are gone before.
-/

namespace LuaShell.Lua

/-- What can be in use or not. -/
inductive Object where
  | table (id : Nat)
  | function (id : Nat)
  | cell (id : Nat)
  | thread (id : Nat)
  | stream (id : Nat)
  deriving DecidableEq

/-- What a table lets go of. -/
inductive Weakness where
  | nothing
  | keys
  | values
  | both
  deriving DecidableEq

/-- Whether values can go. -/
def Weakness.ofValues (w : Weakness) : Bool := w = .values || w = .both

/-- Whether keys can go. -/
def Weakness.ofKeys (w : Weakness) : Bool := w = .keys || w = .both

/-- What a text asks for in a metatable. -/
def Weakness.ofText (text : ByteArray) : Weakness :=
  let letters := Value.untilZero text
  match letters.data.contains 107, letters.data.contains 118 with
  | true, true => .both
  | true, false => .keys
  | false, true => .values
  | false, false => .nothing

namespace State

/-! ## What leads where -/

/-- The object that a value is. Numbers, strings and plain functions of the library are always
there. -/
def objectOf? (s : State) : Value → Option Object
  | .table id => some (.table id)
  | .func id => match s.functions[id]? with
    | some (.native _ cells) => if cells.isEmpty then none else some (.function id)
    | _ => some (.function id)
  | .thread id => some (.thread id)
  | .stream id => some (.stream id)
  | _ => none

/-- What a table lets go of. -/
def weaknessOf (s : State) (t : Table) : Weakness :=
  match t.metatable with
  | none => .nothing
  | some id => match (s.table id).getNode (.str Event.mode.key) with
    | .str text => .ofText text
    | _ => .nothing

/-- The values of a handler. -/
def handlerValues : Handler → List Value
  | .function v => [v]
  | _ => []

/-- The values that a call holds apart from its place on the stack. -/
def frameValues (f : Frame) : List Value :=
  f.function?.toList ++ match f with
    | .native f => match f.waiting with
      | .guarded handler _ => handlerValues handler
      | .closing handler _ e => e :: handlerValues handler
      | _ => []
    | .lua _ => []

/-- Where the values of a thread end. One that has stopped in a call ends there. -/
def endOfStack (frames : List Frame) (stopped : Option Deliver) : Nat :=
  match frames with
  | .native f :: _ => f.top
  | .lua f :: _ => match stopped with
    | some (.store place _) => place + 1
    | _ => f.base + f.proto.registers
  | [] => 1

/-- The values of a thread. -/
def threadValues (s : State) (id : Nat) : List Value :=
  let t := s.thread id
  let (stack, run, stopped) := if id = s.current then (s.stack, s.run, none)
    else (t.stack, t.activity, if t.status = .suspended then some t.deliver else none)
  t.start.toList ++ t.failure.toList ++ handlerValues run.handler ++
    run.frames.flatMap frameValues ++
    (stack.extract 0 (endOfStack run.frames stopped)).toList

/-- The objects to which an object leads. -/
def successors (s : State) : Object → List Object
  | .table id =>
      let t := s.table id
      let above : List Object := t.metatable.toList.map .table
      match s.weaknessOf t with
      | .nothing => above ++ t.toList.flatMap fun e =>
          (s.objectOf? e.1).toList ++ (s.objectOf? e.2).toList
      | .values => above ++ t.toList.filterMap fun e => s.objectOf? e.1
      | _ => above
  | .function id => match s.functions[id]? with
    | some (.closure _ cells) | some (.native _ cells) => cells.toList.map .cell
    | _ => []
  | .cell id => (s.objectOf? (s.cell id)).toList
  | .thread id => (s.threadValues id).filterMap s.objectOf?
  | .stream _ => []

/-- The objects that are always in use. -/
def roots (s : State) : List Object :=
  [.thread 0, .thread s.current, .table s.globals, .table s.loaded,
    .stream s.defaultInput, .stream s.defaultOutput] ++
  s.stringMeta.toList.map .table ++ s.streamMeta.toList.map .table

/-! ## Reaching -/

/-- How many objects there are. -/
def objectCount (s : State) : Nat :=
  s.tables.size + s.functions.size + s.cells.size + s.threads.size + s.streams.size

/-- The number of an object among all of them. -/
def objectNumber (s : State) : Object → Nat
  | .table id => id
  | .function id => s.tables.size + id
  | .cell id => s.tables.size + s.functions.size + id
  | .thread id => s.tables.size + s.functions.size + s.cells.size + id
  | .stream id => s.tables.size + s.functions.size + s.cells.size + s.threads.size + id

/-- Which objects have been reached, by their numbers. -/
abbrev Marks := Array Bool

/-- Reach some objects; those that had not been reached wait for their turn. -/
def mark (s : State) : List Object → List Object → Marks → List Object × Marks
  | [], waiting, marks => (waiting, marks)
  | o :: os, waiting, marks =>
      let i := s.objectNumber o
      if marks.getD i true then mark s os waiting marks
      else mark s os (o :: waiting) (marks.setIfInBounds i true)

/-- Go on from the objects that wait. Each of them waits once. -/
def spread (s : State) : Nat → List Object → Marks → Marks
  | 0, _, marks | _, [], marks => marks
  | n + 1, o :: waiting, marks =>
      let (waiting, marks) := s.mark (s.successors o) waiting marks
      spread s n waiting marks

/-- Whether a value is an object that has not been reached. -/
def isGone (s : State) (marks : Marks) (v : Value) : Bool :=
  match s.objectOf? v with
  | some o => !(marks.getD (s.objectNumber o) true)
  | none => false

/-- The tables that let go of something. -/
def weakTables (s : State) : List (Nat × Weakness) :=
  (List.range s.tables.size).filterMap fun id =>
    match s.weaknessOf (s.table id) with
    | .nothing => none
    | w => some (id, w)

/-- The values of the entries whose keys have been reached, in tables with weak keys. -/
def ledToByKeys (s : State) (weak : List (Nat × Weakness)) (marks : Marks) : List Object :=
  weak.flatMap fun (id, w) =>
    if w = .keys && marks.getD id false then
      (s.table id).toList.filterMap fun e => if s.isGone marks e.1 then none else s.objectOf? e.2
    else []

/-- Go on until no entry leads any further. -/
def settle (s : State) (weak : List (Nat × Weakness)) : Nat → Marks → Marks
  | 0, marks => marks
  | n + 1, marks => match s.mark (s.ledToByKeys weak marks) [] marks with
    | ([], marks) => marks
    | (waiting, marks) => settle s weak n (s.spread s.objectCount waiting marks)

/-- All that some objects lead to, besides what has been reached before. -/
def reach (s : State) (weak : List (Nat × Weakness)) (first : List Object) (marks : Marks) :
    Marks :=
  let (waiting, marks) := s.mark first [] marks
  s.settle weak s.objectCount (s.spread s.objectCount waiting marks)

/-! ## Letting go -/

/-- Take entries out of a table. -/
def dropEntries (s : State) (id : Nat) (drops : Value × Value → Bool) : State :=
  let gone := (s.table id).toList.filter drops
  s.modifyTable id fun t => gone.foldl (fun t e => t.set e.1 .nil) t

/-- Let go of what is not in use. The answer is what has to be told of it, in this order. -/
def letGo (s : State) : List Value × State :=
  let weak := s.weakTables
  let isMarked (marks : Marks) (id : Nat) : Bool := marks.getD id false
  let reached := s.reach weak s.roots (Array.replicate s.objectCount false)
  let (kept, due) := s.watched.partition fun v => !s.isGone reached v
  let revived := s.reach weak (due.filterMap s.objectOf?) reached
  let after := weak.foldl (fun (after : State) (id, w) =>
    let lostValue (e : Value × Value) : Bool :=
      s.isGone (if isMarked reached id then reached else revived) e.2
    let lost (e : Value × Value) : Bool :=
      (w.ofKeys && s.isGone revived e.1) || (w.ofValues && lostValue e)
    if isMarked revived id then after.dropEntries id lost else after) s
  let told := due.foldl (fun (after : State) v => match v with
    | .table id => after.modifyTable id fun t => { t with isWatched := false }
    | _ => after) after
  let gone := revived.foldl (fun n isReached => if isReached then n else n + 1) 0
  (due, { told with watched := kept, collection := { told.collection with gone := gone } })

end State

end LuaShell.Lua
