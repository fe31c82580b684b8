import LuaShell.Command.Basic
import LuaShell.Lua.Library

/-!
# The interpreter

Lua as the engine of a shell.  What hooks do is given from outside; a hook gets the
engine that it is called from, so that calls can be nested.
-/

namespace LuaShell.Lua

/-- What the callbacks of hooks do. -/
abbrev Dispatch :=
  Callback → Engine State Proto → List Value → World → Answer State (List Value)

namespace Interpreter

/-- The place of the first zero character in a text. -/
def zeroAt? (text : String) : Option Nat :=
  (Text.toBytes text).findIdx? (· = 0)

/-- The end of a source as messages show it. -/
def endMark : List UInt8 := Text.toBytes "<eof>"

/-- Whether a message says that the end of a source has come too soon: it ends in the end of
the source, or in that as the last part of what it quotes. -/
def isIncomplete (message : ByteArray) : Bool :=
  let bytes := message.data.toList
  endMark.isSuffixOf bytes || (39 :: endMark ++ [39]).isSuffixOf bytes

/-- Compile a source under a chunk name. -/
def compile (source name : String) : Except EngineError Proto :=
  match zeroAt? name with
  | some i =>
      .error (.runtime s!"invalid name: nul byte found in provided data at position: {i}")
  | none => match Chunk.compile source.toUTF8 name.toUTF8 0 with
    | .ok c => .ok c
    | .error (.grammar text) =>
        .error (.compile (Text.ofBytesLossy text) (isIncomplete text))
    | .error fault => .error (.compile (Text.ofBytesLossy fault.message) false)

/-- The failure that an error value stands for. -/
def failureOf (s : State) : Value → EngineError
  | .failure id => (s.failures[id]?).getD (.runtime "")
  | v => .runtime (Text.ofBytesLossy v.rawText)

/-- What a protected call answers, with failures in place of error values. -/
def answer : Except NativeError (Except Value (List Value)) × World → Answer State (List Value)
  | (.ok (.ok vs), w) => (.ok vs, w)
  | (.ok (.error e), w) => (.error (failureOf w.engine e), w)
  | (.error e, w) => (.error (failureOf w.engine (w.engine.errorOf e).1), w)

/-- Do something from outside a script; an error becomes a failure with the call stack. -/
def guarded (calls : Calls) (act : Act (List Value)) (w : World) : Answer State (List Value) :=
  let handler := w.engine.run.handler
  let setHandler (h : Handler) (w : World) : World :=
    { w with engine := w.engine.modifyRun fun r => { r with handler := h } }
  let (a, w) := answer ((calls.attempt (Raise.inNative act)).run (setHandler .traceback w))
  (a, setHandler handler w)

/-- Call a value from outside a script. -/
def call (calls : Calls) (v : Value) (args : List Value) (w : World) :
    Answer State (List Value) :=
  answer ((calls.protect .traceback v args).run w)

/-- Run a chunk. Nothing is run any more once the shell has been left. -/
def run (calls : Calls) (c : Proto) (w : World) : Answer State (List Value) :=
  match w.engine.halted with
  | some (code, _) => (.error (.command (.exit code)), w)
  | none =>
      let (f, s) := Chunk.load c (.table w.engine.globals) w.engine
      call calls f [] { w with engine := s }

/-- Let everything go out that scripts have written. -/
def flush (w : World) : World :=
  (Library.Streams.flushAll.run w).2

/-- The globals. -/
def globals (w : World) : Value :=
  .table w.engine.globals

/-- What a table holds, in the order in which it is gone through. -/
def entries (v : Value) (w : World) : List (Value × Value) :=
  match v with
  | .table id => (w.engine.table id).toList
  | _ => []

/-- A new table with some entries. -/
def makeTable (es : List (Value × Value)) (w : World) : Value × World :=
  let (v, s) := w.engine.addTable (es.foldl (fun t e => t.set e.1 e.2) default)
  (v, { w with engine := s })

/-- The engine, given what native code can do. -/
def engineOf (calls : Calls) : Engine State Proto where
  compile := compile
  run := run calls
  call := call calls
  getGlobal name w :=
    match guarded calls (return [← Act.index calls (globals w) (.ofString name)]) w with
    | (.ok vs, w) => (.ok ((vs.head?).getD .nil), w)
    | (.error e, w) => (.error e, w)
  setGlobal name v w :=
    match guarded calls (do Act.assign calls (globals w) (.ofString name) v; return []) w with
    | (.ok _, w) => (.ok (), w)
    | (.error e, w) => (.error e, w)
  makeHook callback w :=
    let (f, s) := w.engine.addFunction (.hook callback)
    (f, { w with engine := s })
  makeTable := makeTable
  entries := entries

/-- The machine whose hooks do what is given. -/
def kernel (dispatch : Dispatch) : Kernel where
  native := Library.native?
  control := Library.control?
  hook calls callback args w := dispatch callback (engineOf calls) args w

/-- The engine whose hooks do what is given. -/
def engine (dispatch : Dispatch) : Engine State Proto :=
  engineOf (kernel dispatch).allCalls

/-- The code and the host with which the shell ends, if by itself it would end with a code. Unless
the shell has been left before, first the objects that are not in use are told of it, then all
others. -/
def finish (dispatch : Dispatch) (code : Int) (w : World) : Int × Host :=
  let calls := (kernel dispatch).allCalls
  let ending : Act Unit := do
    Library.Garbage.letGo calls
    Library.Garbage.finish calls
  let settled (w : World) : Int × Host :=
    match w.engine.halted with
    | some halted => halted
    | none => (code, (flush w).host)
  match w.engine.halted with
  | some halted => halted
  | none => settled (ending.run w).2

/-- What the callbacks of the native commands do; other callbacks answer nothing. -/
def commands : Dispatch := fun callback e args w =>
  match Command.ofCallback? callback with
  | some c => c.invoke e args w
  | none => (.ok [], w)

end Interpreter

end LuaShell.Lua
