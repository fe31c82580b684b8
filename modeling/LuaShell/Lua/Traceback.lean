import LuaShell.Lua.Naming

/-!
# Call stacks as text

One line for each call, the innermost first.  A function is named by where it is
found among the loaded modules, or else by what the instruction that called it
names; of a long stack the middle is left out.
-/

namespace LuaShell.Lua

namespace Traceback

/-- The key of a value in a table, if the key is a string. -/
def keyOf? (t : Table) (v : Value) : Option ByteArray :=
  t.toList.findSome? fun
    | (.str k, w) => if w.rawEquals v then some k else none
    | _ => none

/-- The name of a function in the loaded modules; fields of the globals go by their own
name. -/
def loadedName? (s : State) (v : Value) : Option ByteArray :=
  (s.table s.loaded).toList.findSome? fun
    | (.str name, w) =>
        if w.rawEquals v then some name
        else match w with
          | .table id => (keyOf? (s.table id) v).map fun key =>
              if name == "_G".toUTF8 then key else name ++ ".".toUTF8 ++ key
          | _ => none
    | _ => none

/-- How the caller names a call. -/
def callerName (frame : Frame) : Option Frame → OperandName
  | some (.lua f) => if frame.isTail then none else f.proto.calleeName f.current
  | _ => none

/-- The name of a call. -/
def frameName (s : State) (frame : Frame) (caller : Option Frame) : ByteArray :=
  match frame.function?.bind (loadedName? s) with
  | some name => "function '".toUTF8 ++ name ++ "'".toUTF8
  | none => match callerName frame caller with
    | some (kind, name) => s!"{kind} '".toUTF8 ++ name ++ "'".toUTF8
    | none => match frame with
      | .lua f =>
          if f.proto.line = 0 then "main chunk".toUTF8
          else "function <".toUTF8 ++ f.proto.chunkName ++ s!":{f.proto.line}>".toUTF8
      | _ => "?".toUTF8

/-- The line of a call. -/
def frameLine (s : State) (frame : Frame) (caller : Option Frame) : ByteArray :=
  let place := match frame with
    | .lua f => match f.line? with
      | some line => f.proto.chunkName ++ s!":{line}: in ".toUTF8
      | none => f.proto.chunkName ++ ": in ".toUTF8
    | _ => "[C]: in ".toUTF8
  "\n\t".toUTF8 ++ place ++ frameName s frame caller ++
    (if frame.isTail then "\n\t(...tail calls...)".toUTF8 else .empty)

/-- How many calls are shown at the beginning and at the end of a long stack. -/
def shownFirst : Nat := 10

def shownLast : Nat := 11

/-- The lines of calls. -/
def lines (s : State) : List Frame → ByteArray
  | [] => .empty
  | frame :: callers => frameLine s frame callers.head? ++ lines s callers

/-- The first so many lines. -/
def firstLines (s : State) : Nat → List Frame → ByteArray
  | 0, _ | _, [] => .empty
  | n + 1, frame :: callers => frameLine s frame callers.head? ++ firstLines s n callers

/-- The call stack as a text. -/
def text (s : State) : ByteArray :=
  let frames := s.run.frames
  let count := frames.length
  "stack traceback:".toUTF8 ++
    if count ≤ shownFirst + shownLast + 1 then lines s frames
    else firstLines s shownFirst frames ++
      s!"\n\t...\t(skipping {count - shownFirst - shownLast - 1} levels)".toUTF8 ++
      lines s (frames.drop (count - shownLast))

end Traceback

end LuaShell.Lua
