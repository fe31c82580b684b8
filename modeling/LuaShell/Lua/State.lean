import LuaShell.Lua.Instruction
import LuaShell.Lua.Stream
import LuaShell.Lua.Table
import LuaShell.Number.Random
import LuaShell.Script.Engine

/-!
# The state of the Lua engine

All objects that values name by number, the threads, and the calls that are under
way in the running thread, the innermost first.  Every thread has a stack, on which
a call has its function and after it its registers.  A variable that a closure uses
is a cell, which stays a place on the stack until the variable ends.
-/

namespace LuaShell.Lua

/-- A variable that closures use. -/
inductive Cell where
  /-- It still has its place on the stack of a thread. -/
  | slot (thread index : Nat)
  | own (v : Value)

instance : Inhabited Cell := ⟨.own .nil⟩

/-- What is done with the results of a call. -/
inductive Deliver where
  /-- So many of them, or all, go to a place on the stack. -/
  | store (place : Nat) (wanted : Option Nat)
  /-- The first one goes to a place on the stack. -/
  | first (place : Nat)
  /-- The first one takes the place of two operands that were put together. -/
  | joined (place : Nat)
  /-- Skip the next instruction unless the truth of the first is this. -/
  | truth (outcome : Bool)
  | discard
  /-- They are dropped, and the instruction is carried out once more; the values in use end
  here. -/
  | again (top : Nat)
  /-- The native function that made the call goes on. -/
  | native
  /-- They are answered to the native code that made the call. -/
  | host

/-- What is done with an error where it is raised. -/
inductive Handler where
  | none
  /-- The call stack is added to its message. -/
  | traceback
  /-- A function of the script gets it. -/
  | function (v : Value)

/-- What a native function waits for. -/
inductive Waiting where
  /-- It does its work in one go. -/
  | nothing
  /-- It hands on the results of a call, at most so many. -/
  | results (limit : Option Nat)
  /-- It catches errors of a call. The handler from before comes back afterwards, and so does
  the depth of native calls if the thread cannot stop. -/
  | guarded (handler : Handler) (depth : Nat)
  /-- It has caught an error and closes variables from a place on. -/
  | closing (handler : Handler) (depth : Nat) (error : Value)

/-- A call of a function in code. -/
structure LuaFrame where
  function : Nat
  proto : Proto
  upvalues : Array Nat
  /-- The place of the first register. -/
  base : Nat
  /-- The next instruction. -/
  place : Nat
  /-- How many extra arguments there are. -/
  extra : Nat
  isTail : Bool
  deliver : Deliver
  /-- The epoch in which the call was counted among the nested ones, or zero. -/
  epoch : Nat

/-- A call of a native function. -/
structure NativeFrame where
  /-- `none` for native code that is no value, such as what handles an error. -/
  function : Option Nat
  /-- The place of the function on the stack, and the first free one after the arguments. -/
  base : Nat
  top : Nat
  waiting : Waiting
  deliver : Deliver
  epoch : Nat

/-- A call. -/
inductive Frame where
  | lua (f : LuaFrame)
  | native (f : NativeFrame)

/-- What a function does. -/
inductive Callable where
  | closure (proto : Proto) (upvalues : Array Nat)
  /-- A function of the library, and cells of its own. -/
  | native (name : String) (cells : Array Nat)
  | hook (callback : Callback)

instance : Inhabited Callable := ⟨.native "" #[]⟩

/-- How far a thread is. -/
inductive ThreadStatus where
  | suspended
  | running
  /-- It has resumed another thread. -/
  | normal
  | dead
  deriving DecidableEq

/-- What a thread is doing. -/
structure Activity where
  frames : List Frame
  /-- Where the values in use end, if an instruction leaves that open. -/
  top : Nat
  /-- Cells that have their place on the stack, the highest first. -/
  cells : List (Nat × Nat)
  /-- Places of variables that have to be closed, the highest first. -/
  pending : List Nat
  handler : Handler
  /-- How many calls are nested in native code, and how many were when the thread was last
  gone on with. -/
  depth : Nat
  ground : Nat
  /-- Calls that were counted in another epoch do not count any more. -/
  epoch : Nat
  /-- Whether the thread can stop. -/
  mayYield : Bool
  /-- Whether the stack has been too high. -/
  isOverflown : Bool

/-- Nothing is being done. -/
def Activity.idle : Activity := ⟨[], 0, [], [], .none, 0, 0, 1, false, false⟩

/-- A thread. -/
structure Thread where
  status : ThreadStatus
  /-- The function to start with, until it has been started. -/
  start : Option Value
  stack : Array Value
  activity : Activity
  /-- How the values that go on with it are delivered. -/
  deliver : Deliver
  /-- The error that ended it. -/
  failure : Option Value

instance : Inhabited Thread := ⟨⟨.dead, none, #[], .idle, .discard, none⟩⟩

/-- How garbage is collected. -/
structure Collection where
  pause : Nat
  stepMultiplier : Nat
  isGenerational : Bool
  isRunning : Bool
  /-- Whether objects are being told that they are not in use any more. -/
  isTelling : Bool
  /-- Whether the engine ends, so that no more objects can ask to be told. -/
  isEnding : Bool
  /-- How many objects had not been in use any more when it was last looked for them. -/
  gone : Nat

/-- All objects, and what else there is apart from calls. -/
structure Objects where
  tables : Array Table
  functions : Array Callable
  cells : Array Cell
  threads : Array Thread
  streams : Array Stream
  failures : Array EngineError
  /-- The running thread; the first one is not a coroutine. -/
  current : Nat
  stringMeta : Option Nat
  streamMeta : Option Nat
  globals : Nat
  loaded : Nat
  /-- The streams that are read and written if none is named. -/
  defaultInput : Nat
  defaultOutput : Nat
  /-- The state of the generator of random numbers. -/
  random : RandomState
  collection : Collection
  /-- The objects that are told when they are not in use any more, the last that asked for it
  first. -/
  watched : List Value
  /-- The code with which the script has left the shell at once, and the host at that
  moment. -/
  halted : Option (Int × Host)

/-- The state of the engine. -/
structure State extends Objects where
  /-- The stack of the running thread. -/
  stack : Array Value
  /-- What the running thread is doing. -/
  run : Activity

/-- The host and the engine. -/
abbrev World := Machine State

/-- Why a native function failed. -/
inductive NativeError where
  /-- An argument is of no use. -/
  | argument (i : Nat) (message : ByteArray)
  /-- A message, which gets the place of the caller. -/
  | message (text : ByteArray)
  /-- A value as it is. -/
  | raise (v : Value)
  /-- An error from a call that the function made. -/
  | passed (v : Value)

/-- A step of native code. -/
abbrev Act := ExceptT NativeError (StateM World)

/-- How native code makes calls. -/
structure Calls where
  call : Value → List Value → Act (List Value)
  /-- Call, and answer an error that is raised. -/
  protect : Handler → Value → List Value → Act (Except Value (List Value))
  /-- Do something and answer an error that is raised; it is handled as before. -/
  attempt : Act (List Value) → Act (Except Value (List Value))
  /-- Go on with a thread. -/
  resume : Nat → List Value → Act (Except Value (List Value))
  /-- Close what is to be closed in a thread that has stopped, after an error or not. -/
  closeThread : Nat → Act (Option Value)

/-- A function of the library. Its cells come before its arguments. -/
abbrev Native := Calls → Array Nat → List Value → Act (List Value)

/-- What a native function that gives control away wants. -/
inductive Reply where
  | values (vs : List Value)
  /-- A call, whose function stands so far above the native one, and whose results are
  answered, at most so many. -/
  | call (f : Value) (args : List Value) (offset : Nat) (limit : Option Nat)
  /-- A call whose errors are caught, and what is done with them where they are raised. -/
  | guarded (handler : Handler) (f : Value) (args : List Value) (offset : Nat)
  /-- The thread stops with these values. -/
  | yield (vs : List Value)

/-- A native function that gives control away, so that a thread can stop inside it. -/
abbrev Control := Calls → Array Nat → List Value → Act Reply

/-- How high the stack can be. -/
def maxStack : Nat := 1000000

namespace Frame

/-- What is done with the results of a call. -/
def deliver : Frame → Deliver
  | .lua f => f.deliver
  | .native f => f.deliver

/-- The function of a call. -/
def function? : Frame → Option Value
  | .lua f => some (.func f.function)
  | .native f => f.function.map .func

/-- Whether a call was made in place of the caller. -/
def isTail : Frame → Bool
  | .lua f => f.isTail
  | .native _ => false

end Frame

namespace State

/-! ## Objects -/

def addTable (s : State) (t : Table) : Value × State :=
  (.table s.tables.size, { s with tables := s.tables.push t })

def addFunction (s : State) (f : Callable) : Value × State :=
  (.func s.functions.size, { s with functions := s.functions.push f })

/-- A new cell with a value. -/
def addCell (s : State) (v : Value) : Nat × State :=
  (s.cells.size, { s with cells := s.cells.push (.own v) })

def addStream (s : State) (x : Stream) : Value × State :=
  let v := Value.stream s.streams.size
  (v, { s with streams := s.streams.push x, watched := v :: s.watched })

def addFailure (s : State) (e : EngineError) : Value × State :=
  (.failure s.failures.size, { s with failures := s.failures.push e })

def table (s : State) (id : Nat) : Table := (s.tables[id]?).getD default

def modifyTable (s : State) (id : Nat) (f : Table → Table) : State :=
  { s with tables := s.tables.modify id f }

def stream (s : State) (id : Nat) : Stream := (s.streams[id]?).getD default

def modifyStream (s : State) (id : Nat) (f : Stream → Stream) : State :=
  { s with streams := s.streams.modify id f }

def thread (s : State) (id : Nat) : Thread := (s.threads[id]?).getD default

def modifyThread (s : State) (id : Nat) (f : Thread → Thread) : State :=
  { s with threads := s.threads.modify id f }

/-- Change what the running thread is doing. -/
def modifyRun (s : State) (f : Activity → Activity) : State :=
  { s with run := f s.run }

/-! ## The stack -/

/-- The value at a place on the stack. -/
@[inline] def slot (s : State) (place : Nat) : Value := s.stack.getD place .nil

/-- Put a value at a place on the stack. -/
@[noinline] def put (s : State) (place : Nat) (v : Value) : State :=
  { s with stack := s.stack.setIfInBounds place v }

/-- Put values at places on the stack from one on. -/
def putAll (s : State) (place : Nat) : List Value → State
  | [] => s
  | v :: vs => putAll (s.put place v) (place + 1) vs

/-- Put so many values at places on the stack; those that are not there are nil. -/
def putCount (s : State) (place : Nat) : Nat → List Value → State
  | 0, _ => s
  | n + 1, [] => putCount (s.put place .nil) (place + 1) n []
  | n + 1, v :: vs => putCount (s.put place v) (place + 1) n vs

/-- So many values from a place on. -/
def slice (s : State) (place count : Nat) : List Value :=
  go s.stack place count []
where
  go (stack : Array Value) (place : Nat) : Nat → List Value → List Value
    | 0, acc => acc
    | n + 1, acc => go stack place n (stack.getD (place + n) .nil :: acc)

/-- See to it that the stack has so many places. -/
def grow (s : State) (size : Nat) : State :=
  if s.stack.size < size then
    let more := max size (2 * s.stack.size) - s.stack.size
    { s with stack := s.stack ++ Array.replicate more Value.nil }
  else s

/-- The first place above the values of the innermost call. -/
def topPlace (s : State) : Nat :=
  match s.run.frames with
  | .lua f :: _ => f.base + f.proto.registers
  | .native f :: _ => f.top
  | [] => 1

/-! ## Cells -/

/-- The value of a cell. -/
def cell (s : State) (id : Nat) : Value :=
  match s.cells[id]? with
  | some (.own v) => v
  | some (.slot thread i) =>
      if thread = s.current then s.slot i else (s.thread thread).stack.getD i .nil
  | none => .nil

/-- Set the value of a cell. -/
def setCell (s : State) (id : Nat) (v : Value) : State :=
  match s.cells[id]? with
  | some (.slot thread i) =>
      if thread = s.current then s.put i v
      else s.modifyThread thread fun t => { t with stack := t.stack.setIfInBounds i v }
  | _ => { s with cells := s.cells.setIfInBounds id (.own v) }

/-- Put a cell among others, the highest place first. -/
def insertCell (place id : Nat) : List (Nat × Nat) → List (Nat × Nat)
  | [] => [(place, id)]
  | c :: cs => if c.1 < place then (place, id) :: c :: cs else c :: insertCell place id cs

/-- The cell of a place on the stack. -/
def cellAt (s : State) (place : Nat) : Nat × State :=
  match s.run.cells.find? (·.1 ≤ place) with
  | some (p, id) => if p = place then (id, s) else fresh
  | none => fresh
where
  fresh : Nat × State :=
    let id := s.cells.size
    (id, { s with
      cells := s.cells.push (.slot s.current place)
      run := { s.run with cells := insertCell place id s.run.cells } })

/-- Let the cells from a place on keep their values themselves. -/
def closeCells (s : State) (place : Nat) : State :=
  match s.run.cells with
  | [] => s
  | c :: _ =>
      if c.1 < place then s
      else
        let ended := s.run.cells.takeWhile (place ≤ ·.1)
        let rest := s.run.cells.dropWhile (place ≤ ·.1)
        let stack := s.stack
        { s with
          cells := ended.foldl (fun cells c =>
            cells.setIfInBounds c.2 (.own (stack.getD c.1 .nil))) s.cells
          run := { s.run with cells := rest } }

/-! ## Metatables -/

/-- The table that says how a value behaves. -/
def metatable? (s : State) : Value → Option Nat
  | .table id => (s.table id).metatable
  | .str _ => s.stringMeta
  | .stream _ => s.streamMeta
  | _ => none

/-- Give a table a metatable, or none. If that has a finalizer by now, the table is told when it
is not in use any more. -/
def setMetatable (s : State) (id : Nat) (metatable : Option Nat) : State :=
  let isWatched := (s.table id).isWatched
  let asks : Bool := match metatable with
    | some m => !((s.table m).getNode (.str Event.gc.key)).isNil
    | none => false
  let asks := asks && !isWatched && !s.collection.isEnding
  let s := s.modifyTable id fun t =>
    { t with metatable := metatable, isWatched := isWatched || asks }
  if asks then { s with watched := .table id :: s.watched } else s

/-- What a value has for a field of its metatable; nil if nothing. -/
def metaField (s : State) (v : Value) (key : ByteArray) : Value :=
  match s.metatable? v with
  | some id => (s.table id).getNode (.str key)
  | none => .nil

/-- What a value does on an event; nil if nothing. -/
def metamethod (s : State) (v : Value) (event : Event) : Value :=
  match s.metatable? v with
  | some id => (s.table id).getNode (.str event.key)
  | none => .nil

/-- The name that a metatable gives to the type of a value. -/
def ownTypeName? (s : State) (v : Value) : Option ByteArray :=
  match s.metaField v "__name".toUTF8 with
  | .str name => some name
  | _ => none

/-- The type of an operand in messages: the name that a metatable gives to tables and
streams. -/
def typeNameOf (s : State) (v : Value) : ByteArray :=
  match v with
  | .table _ | .stream _ => (s.ownTypeName? v).getD v.typeName.toUTF8
  | _ => v.typeName.toUTF8

end State

end LuaShell.Lua
