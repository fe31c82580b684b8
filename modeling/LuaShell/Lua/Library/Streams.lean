import LuaShell.Lua.Act
import LuaShell.Lua.Numeral

/-!
# The library of streams

Opening, reading, writing and closing.  One stream is read and one is written if none
is named; in the beginning these are the standard streams, which nobody can close.
-/

namespace LuaShell.Lua.Library.Streams

/-! ## Answers -/

/-- What an error of the system is called. -/
def systemText : IoError → String
  | .system n => Errno.text n
  | e => e.message

/-- The number of an error of the system. -/
def systemNumber : IoError → Errno
  | .system n => n
  | _ => Errno.invalid

/-- What is answered when the system refuses something; the file may be named. -/
def refusal (name : Option ByteArray) (e : IoError) : List Value :=
  let text := (systemText e).toUTF8
  let message := match name with
    | some name => name ++ ": ".toUTF8 ++ text
    | none => text
  [.nil, .str message, .int (Int64.ofInt (systemNumber e))]

/-- What is answered when the system refuses something with a number. -/
def refusalOf (cause : Errno) : List Value :=
  refusal none (.system cause)

/-- The number of the signal that ends a program at once. -/
def killSignal : Int64 := 9

/-- How a command ended, as values. -/
def endingValues : Ending → List Value
  | .exited 0 => [.bool true, .ofString "exit", .int 0]
  | .exited code => [.nil, .ofString "exit", .int (Int64.ofInt code)]
  | .killed => [.nil, .ofString "signal", .int killSignal]
  | .unknown cause => refusalOf cause

/-! ## Streams of the state -/

/-- Do something with a stream and the host. -/
def withStream {α : Type} (id : Nat) (f : Stream → Host → α × Stream × Host) : Act α := fun w =>
  let (a, x, h) := f (w.engine.stream id) w.host
  (.ok a, ⟨h, w.engine.modifyStream id fun _ => x⟩)

/-- The standard streams are the first ones. -/
def inputId : Nat := 0

def outputId : Nat := 1

/-- Let go out what is pending in a stream. -/
def flush (id : Nat) : Act Unit :=
  withStream id fun x h =>
    let (x, h) := x.flush h
    ((), x, h)

/-- The numbers of all streams, the last one first. -/
def streamIds : Act (List Nat) :=
  Act.ofState fun s => (List.range s.streams.size).reverse

/-- Let everything go out. -/
def flushAll : Act Unit := do
  for id in ← streamIds do flush id

/-- A stream, open or closed. -/
def stream (args : List Value) (i : Nat) : Act Nat :=
  match Act.argument args i with
  | .stream id => pure id
  | _ => Act.failType args i "FILE*"

/-- A stream that is open. -/
def openStream (args : List Value) (i : Nat) : Act Nat := do
  let id ← stream args i
  if ← Act.ofState fun s => (s.stream id).isClosed then
    Act.fail "attempt to use a closed file"
  return id

/-- The stream that is read if none is named, or the one that is written. -/
def currentId (isInput : Bool) : Act Nat :=
  Act.ofState fun s => if isInput then s.defaultInput else s.defaultOutput

/-- That stream, which has to be open. -/
def currentStream (isInput : Bool) : Act Nat := do
  let id ← currentId isInput
  if ← Act.ofState fun s => (s.stream id).isClosed then
    let what := if isInput then "input" else "output"
    Act.fail s!"default {what} file is closed"
  return id

/-! ## Opening -/

/-- What a mode asks for: a letter, perhaps a plus sign, and any number of letters b. -/
def openMode? (mode : ByteArray) : Option OpenMode :=
  match mode.data.toList with
  | kind :: rest =>
      let plus := rest.head? = some 43
      let tail := if plus then rest.drop 1 else rest
      if !tail.all (· = 98) then none
      else if kind = 114 then some ⟨true, plus, false, false, false⟩
      else if kind = 119 then some ⟨plus, true, true, true, false⟩
      else if kind = 97 then some ⟨plus, true, true, false, true⟩
      else none
  | [] => none

/-- Open a file. -/
def openFile (name : ByteArray) (mode : OpenMode) : Act (Except IoError Value) := do
  match ← Act.ofHost fun h => h.files.openFile ⟨name.data.toList⟩ mode with
  | .error e => return .error e
  | .ok (opened, fs) =>
      Act.changeHost fun h => { h with files := fs }
      let target : StreamTarget := match opened with
        | .file id => .file id
        | .directory => .directory
        | .sink => .sink
      let position := match opened with
        | .file id => if mode.appends && !mode.reads then (fs.bytesOf id).size else 0
        | _ => 0
      let x := Stream.fresh target mode.reads mode.writes
      return .ok (← Act.update
        (·.addStream { x with appends := mode.appends, position := position }))

/-- `open`. -/
def openNamed : Native := fun _ _ args => do
  let name ← Act.text args 1
  match openMode? (← Act.textOr args 2 "r".toUTF8) with
  | none => Act.failAt 2 "invalid mode"
  | some mode => match ← openFile name mode with
    | .ok v => return [v]
    | .error e => return refusal (some name) e

/-- Open a file or raise an error. -/
def openOrFail (name : ByteArray) (mode : OpenMode) : Act Value := do
  match ← openFile name mode with
  | .ok v => return v
  | .error e =>
      Act.failBytes ("cannot open file '".toUTF8 ++ name ++ s!"' ({systemText e})".toUTF8)

/-- How files are opened that are only read. -/
def readMode : OpenMode := ⟨true, false, false, false, false⟩

/-- How files are opened that are only written, from the beginning. -/
def writeMode : OpenMode := ⟨false, true, true, true, false⟩

/-- Answer, and perhaps set, the stream that is used if none is named. -/
def choose (isInput : Bool) : Native := fun _ _ args => do
  if !Act.isAbsent args 1 then
    let id ← match (Act.argument args 1).asBytes? with
      | some name => do
          let name := Value.untilZero name
          match ← openOrFail name (if isInput then readMode else writeMode) with
          | .stream id => pure id
          | _ => pure 0
      | none => openStream args 1
    Act.change fun s =>
      if isInput then { s with defaultInput := id } else { s with defaultOutput := id }
  return [.stream (← currentId isInput)]

/-- `popen`. What the command writes is caught at once. -/
def popen : Native := fun _ _ args => do
  let line := Text.ofBytesLossy (← Act.text args 1)
  let mode ← Act.textOr args 2 "r".toUTF8
  let isRead := mode == "r".toUTF8
  if !isRead && !(mode == "w".toUTF8) then Act.failAt 2 "invalid mode"
  flushAll
  if isRead then
    let (bytes, ending) ← (fun w =>
      let (bytes, ending, h) := w.host.catchOutput line
      (.ok (bytes, ending), { w with host := h }) : Act (ByteArray × Ending))
    return [← Act.update (·.addStream (.fresh (.commandOutput bytes ending) true false))]
  return [← Act.update (·.addStream (.fresh (.commandInput line) false true))]

/-- `tmpfile`: a new file without a name. -/
def tmpfile : Native := fun _ _ _ => do
  let fs ← Act.ofHost (·.files)
  let id := fs.files.size
  let file : File := ⟨.empty, File.defaultMode⟩
  Act.changeHost fun h => { h with files := { fs with files := fs.files.push file } }
  return [← Act.update (·.addStream (.fresh (.file id) true true))]

/-! ## Reading -/

/-- What a format reads: a value, if it finds one, how many bytes, and how many it looks
at. -/
structure Scanned where
  value : Option Value
  read : Nat
  looked : Nat

/-- The place of the next line feed, or the end. -/
def lineEnd (b : ByteArray) : Nat → Nat → Nat
  | 0, i => i
  | n + 1, i => if b[i]? = some 10 then i else lineEnd b n (i + 1)

/-- A line, without the line feed unless it is kept. -/
def scanLine (keepsEnd : Bool) (b : ByteArray) (start : Nat) : Scanned :=
  let e := lineEnd b (b.size - start) start
  if e < b.size then
    let text := b.extract start (if keepsEnd then e + 1 else e)
    ⟨some (.str text), e + 1 - start, e + 1 - start⟩
  else if start < e then ⟨some (.str (b.extract start e)), e - start, e + 1 - start⟩
  else ⟨none, 0, 1⟩

/-- So many bytes; none of them asks only whether there is something left. -/
def scanBytes (n : Nat) (b : ByteArray) (start : Nat) : Scanned :=
  let left := b.size - start
  if n = 0 then ⟨if left = 0 then none else some (.str .empty), 0, 1⟩
  else if left = 0 then ⟨none, 0, 1⟩
  else
    let read := min n left
    ⟨some (.str (b.extract start (start + read))), read, if n ≤ left then n else left + 1⟩

/-- All that is left. -/
def scanAll (b : ByteArray) (start : Nat) : Scanned :=
  let left := b.size - start
  ⟨some (.str (b.extract start b.size)), left, left + 1⟩

/-- The longest numeral that is read. -/
def maxNumeral : Nat := 200

/-- A numeral that is being read: the place of the next byte, how many bytes have been taken,
and whether it is not too long. -/
structure NumeralScan where
  place : Nat
  taken : Nat
  isShort : Bool

namespace NumeralScan

/-- Take the next byte, if it is one of some. -/
def take (b : ByteArray) (accepts : UInt8 → Bool) (x : NumeralScan) : Bool × NumeralScan :=
  match b[x.place]? with
  | some c =>
      if !accepts c then (false, x)
      else if maxNumeral ≤ x.taken then (false, { x with isShort := false })
      else (true, { x with place := x.place + 1, taken := x.taken + 1 })
  | none => (false, x)

/-- Take digits, and count them. -/
def digits (b : ByteArray) (accepts : UInt8 → Bool) : Nat → NumeralScan → Nat × NumeralScan
  | 0, x => (0, x)
  | n + 1, x => match x.take b accepts with
    | (true, x) =>
        let (count, x) := digits b accepts n x
        (count + 1, x)
    | (false, x) => (0, x)

end NumeralScan

/-- One of two bytes. -/
def either (a b c : UInt8) : Bool := c = a || c = b

/-- A numeral, as far as it may go. -/
def scanNumber (b : ByteArray) (start : Nat) : Scanned :=
  let blanks := ((b.extract start b.size).data.toList.takeWhile isSpace).length
  let x : NumeralScan := ⟨start + blanks, 0, true⟩
  let (_, x) := x.take b (either 43 45)
  let (zero, x) := x.take b (· = 48)
  let (hex, x) := if zero then x.take b (either 120 88) else (false, x)
  let digit : UInt8 → Bool := if hex then isHexDigit else isDigit
  let (whole, x) := x.digits b digit (maxNumeral + 1)
  let (point, x) := x.take b (· = 46)
  let (part, x) := if point then x.digits b digit (maxNumeral + 1) else (0, x)
  let count := (if zero && !hex then 1 else 0) + whole + part
  let (mark, x) := if 0 < count then
      x.take b (if hex then either 112 80 else either 101 69) else (false, x)
  let (_, x) := if mark then x.take b (either 43 45) else (false, x)
  let (_, x) := if mark then x.digits b isDigit (maxNumeral + 1) else (0, x)
  let text := (b.extract (x.place - x.taken) x.place).data.toList
  let value := if x.isShort then Numeral.read? text else none
  ⟨value, x.place - start, x.place + 1 - start⟩

/-- How much memory one read can ask for. -/
def maxRead : Int := 0x400000000000

/-- How a format reads. -/
def scanner (args : List Value) (i : Nat) : Act (ByteArray → Nat → Scanned) :=
  match Act.argument args i with
  | .int _ | .num _ => do
      let n := (← Act.int args i).toInt
      if n < 0 || maxRead < n then Act.failPlainly "not enough memory".toUTF8
      return scanBytes n.toNat
  | _ => do
      let format := (← Act.text args i).data.toList
      let letter := if format.head? = some 42 then format[1]? else format.head?
      match letter with
      | some 110 => return scanNumber
      | some 108 => return scanLine false
      | some 76 => return scanLine true
      | some 97 => return scanAll
      | _ => Act.failAt i "invalid format"

/-- Read by one format. -/
def readOne (id : Nat) (scan : ByteArray → Nat → Scanned) : Act (Option Value) := do
  flush id
  withStream id fun x h =>
    let (bytes, start) := x.contents h
    let r := scan bytes start
    let (x, h) := x.advance r.read r.looked h
    (r.value, x, h)

/-- Read by the formats from the `i`-th argument on, up to the first that finds nothing. -/
def readEach (id : Nat) (args : List Value) : Nat → Nat → Act (List Value)
  | 0, _ => return []
  | n + 1, i => do
      match ← readOne id (← scanner args i) with
      | none => return [.nil]
      | some v => return v :: (← readEach id args n (i + 1))

/-- Read by formats, which begin with the `first` argument; without any a line is read. -/
def readFrom (id : Nat) (args : List Value) (first : Nat) : Act (List Value) := do
  let count := args.length + 1 - first
  Act.ensureRoom (count + 20) "too many arguments"
  let values ← if count = 0 then do
      pure [(← readOne id (scanLine false)).getD .nil]
    else readEach id args count first
  match ← Act.ofState fun s => (s.stream id).readFault? with
  | some cause => return refusalOf cause
  | none => return values

/-- `read`. -/
def read : Native := fun _ _ args => do readFrom (← currentStream true) args 1

/-- `read` of a stream. -/
def readMethod : Native := fun _ _ args => do readFrom (← openStream args 1) args 2

/-! ## Lines -/

/-- The name of the functions that go through a stream. -/
def nextLineName : String := "line iterator"

/-- How many formats a function that goes through a stream can have. -/
def maxFormats : Nat := 250

/-- A function that goes through a stream. -/
def iterator (id : Nat) (isOwn : Bool) (formats : List Value) : Act Value := do
  if maxFormats < formats.length then Act.failAt (maxFormats + 2) "too many arguments"
  Act.update fun s =>
    let (cells, s) := (Value.stream id :: .bool isOwn :: formats).foldl (fun (cells, s) v =>
      let (cell, s) := s.addCell v
      (cells.push cell, s)) ((#[] : Array Nat), s)
    s.addFunction (.native nextLineName cells)

/-- `lines`. The file is closed when its end is reached. -/
def lines : Native := fun _ _ args => do
  if Act.isAbsent args 1 then
    let id ← currentId true
    let id ← openStream [.stream id] 1
    return [← iterator id false (args.drop 1)]
  let name ← Act.text args 1
  match ← openOrFail name readMode with
  | .stream id => return [← iterator id true (args.drop 1), .nil, .nil, .stream id]
  | v => return [v]

/-- `lines` of a stream. -/
def linesMethod : Native := fun _ _ args => do
  return [← iterator (← openStream args 1) false (args.drop 1)]

/-- Go on through a stream. The cells hold the stream, whether it is closed at its end, and
formats. -/
def nextLine : Native := fun _ cells _ => do
  let values ← Act.ofState fun s => cells.toList.map s.cell
  match values with
  | .stream id :: isOwn :: formats =>
      if ← Act.ofState fun s => (s.stream id).isClosed then
        Act.fail "file is already closed"
      let found ← readFrom id (.stream id :: formats) 2
      match found with
      | v :: rest =>
          if v.truthy then return found
          match rest with
          | message :: _ => Act.failBytes ((message.asBytes?).getD .empty)
          | [] =>
              if isOwn.truthy then withStream id fun x h =>
                let (_, x, h) := x.close h
                ((), x, h)
              return []
      | [] => return []
  | _ => return []

/-! ## Writing -/

/-- What is written of a value, if it is a string or a number. -/
def written (args : List Value) (i : Nat) : Act ByteArray :=
  match Act.argument args i with
  | .num x => return (Value.plainFloatText x).toUTF8
  | _ => Act.bytes args i

/-- Write arguments from the `first` on; the answer is the stream. -/
def writeTo (id : Nat) (args : List Value) (first : Nat) : Act (List Value) := do
  let mut fails := false
  for k in List.range (args.length + 1 - first) do
    let bytes ← written args (first + k)
    if ← Act.ofState fun s => (s.stream id).canWrite then
      withStream id fun x h =>
        let (x, h) := x.write bytes h
        ((), x, h)
    else if 0 < bytes.size then fails := true
  if fails then return refusalOf Errno.badDescriptor
  return [.stream id]

/-- `write`. -/
def write : Native := fun _ _ args => do writeTo (← currentStream false) args 1

/-- `write` of a stream. -/
def writeMethod : Native := fun _ _ args => do writeTo (← openStream args 1) args 2

/-! ## Other operations -/

/-- The standard streams are the first ones; they stay open. -/
def isStandard (id : Nat) : Bool := id < 3

/-- Close a stream that is open. -/
def closeStream (id : Nat) : Act (List Value) := do
  if isStandard id then return [.nil, .ofString "cannot close standard file"]
  match ← withStream id Stream.close with
  | some ending => return endingValues ending
  | none => return [.bool true]

/-- `close`. -/
def close : Native := fun _ _ args => do
  if args.isEmpty then closeStream (← openStream [.stream (← currentId false)] 1)
  else closeStream (← openStream args 1)

/-- `close` of a stream. -/
def closeMethod : Native := fun _ _ args => do closeStream (← openStream args 1)

/-- What happens to a stream that is not used any more. -/
def release : Native := fun _ _ args => do
  let id ← stream args 1
  if !(← Act.ofState fun s => (s.stream id).isClosed) then
    let _ ← closeStream id
  return []

/-- `flush`. -/
def flushCurrent : Native := fun _ _ _ => do
  flush (← currentStream false)
  return [.bool true]

/-- `flush` of a stream. -/
def flushMethod : Native := fun _ _ args => do
  flush (← openStream args 1)
  return [.bool true]

/-- `seek` of a stream. -/
def seek : Native := fun _ _ args => do
  let id ← openStream args 1
  let origin ← Act.option args 2 (some "cur") ["set", "cur", "end"]
  let offset := (← Act.intOr args 3 0).toInt
  let origin : Stream.Origin := match origin with
    | "set" => .start
    | "end" => .finish
    | _ => .current
  match ← withStream id fun x h => x.seek origin offset h with
  | .ok place => return [.int (Int64.ofNat place)]
  | .error cause => return refusalOf cause

/-- `setvbuf` of a stream. -/
def setvbuf : Native := fun _ _ args => do
  let id ← openStream args 1
  let mode ← Act.option args 2 none ["no", "full", "line"]
  let _ ← Act.intOr args 3 0
  let buffering : Buffering := match mode with
    | "no" => .none
    | "line" => .line
    | _ => .full
  if buffering = .none then flush id
  Act.change (·.modifyStream id fun x => { x with buffering := buffering })
  return [.bool true]

/-- `type`. -/
def type : Native := fun _ _ args => do
  match ← Act.any args 1 with
  | .stream id =>
      let isClosed ← Act.ofState fun s => (s.stream id).isClosed
      return [.ofString (if isClosed then "closed file" else "file")]
  | _ => return [.nil]

/-- The text of a stream. -/
def display : Native := fun _ _ args => do
  let id ← stream args 1
  let isClosed ← Act.ofState fun s => (s.stream id).isClosed
  return [.ofString (if isClosed then "file (closed)" else s!"file ({Value.address id 4})")]

/-! ## The library -/

/-- The functions and their names. -/
def functions : List (String × Native) :=
  [("close", close), ("flush", flushCurrent), ("input", choose true), ("lines", lines),
   ("open", openNamed), ("output", choose false), ("popen", popen), ("read", read),
   ("tmpfile", tmpfile), ("type", type), ("write", write)]

/-- The methods of streams and their names. -/
def methods : List (String × Native) :=
  [("read", readMethod), ("write", writeMethod), ("lines", linesMethod),
   ("flush", flushMethod), ("seek", seek), ("close", closeMethod), ("setvbuf", setvbuf)]

/-- What happens to streams on events. -/
def events : List (String × Native) :=
  [("__gc", release), ("__close", release), ("__tostring", display)]

/-- The standard streams and their names. -/
def standard : List (String × Stream) :=
  [("stdin", .fresh .input true false), ("stdout", .fresh .output false true),
   ("stderr", { Stream.fresh .errors false true with buffering := .none })]

end LuaShell.Lua.Library.Streams
