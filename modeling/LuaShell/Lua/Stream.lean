import LuaShell.FileSystem.Open
import LuaShell.Lua.Value
import LuaShell.Process.Pipe

/-!
# Streams

Files, standard streams and commands as a script sees them.  What is written is kept
back for a while and goes out in larger pieces; what is read comes from a place in all
that could be read.
-/

namespace LuaShell.Lua

/-- Where a stream comes from or goes to. -/
inductive StreamTarget where
  | input
  | output
  | errors
  /-- A file by its number. -/
  | file (id : Nat)
  | directory
  /-- Nothing comes from there, and what goes there is lost. -/
  | sink
  /-- What a command wrote, and how the command ended. -/
  | commandOutput (bytes : ByteArray) (ending : Ending)
  /-- A command that is run when the stream is closed. -/
  | commandInput (line : String)

/-- When what was written goes out. -/
inductive Buffering where
  /-- When there is much of it. -/
  | full
  /-- With every line. -/
  | line
  /-- At once. -/
  | none
  deriving DecidableEq

/-- A stream. -/
structure Stream where
  /-- `none` once it is closed. -/
  target : Option StreamTarget
  canRead : Bool
  canWrite : Bool
  /-- Whether everything is written at the end. -/
  appends : Bool
  /-- The place that has been reached in a file. -/
  position : Nat
  /-- What was written and has not gone out yet, or what was taken from the input and has not
  been read yet. -/
  pending : ByteArray
  buffering : Buffering

instance : Inhabited Stream := ⟨⟨none, false, false, false, 0, .empty, .full⟩⟩

namespace Stream

/-- How much is kept back at most, and how much is taken from the input at once. -/
def capacity : Nat := 4096

/-- A stream from or to something, with nothing pending. -/
def fresh (target : StreamTarget) (canRead canWrite : Bool) : Stream :=
  ⟨some target, canRead, canWrite, false, 0, .empty, .full⟩

/-- Whether a stream is closed. -/
def isClosed (x : Stream) : Bool := x.target.isNone

/-! ## Writing -/

/-- Let bytes go out, of which nothing is pending. -/
def emit (x : Stream) (bytes : ByteArray) (h : Host) : Stream × Host :=
  match x.target with
  | some .output => (x, h.writeBytes bytes)
  | some .errors => (x, { h with errors := h.errors ++ bytes })
  | some (.file id) =>
      let place := if x.appends then (h.files.bytesOf id).size else x.position
      ({ x with position := place + bytes.size },
        { h with files := h.files.writeAt id place bytes })
  | _ => (x, h)

/-- Whether what is pending was written. -/
def keepsWritten (x : Stream) : Bool :=
  match x.target with
  | some .output | some .errors | some (.file _) => true
  | _ => false

/-- Let go out what is pending. -/
def flush (x : Stream) (h : Host) : Stream × Host :=
  if x.keepsWritten && 0 < x.pending.size then
    { x with pending := .empty }.emit x.pending h
  else (x, h)

/-- How much of what is pending goes out, after so much has been written. -/
def due (x : Stream) (all : ByteArray) : Nat :=
  match x.buffering with
  | .none => all.size
  | .line =>
      let tail := all.data.toList.reverse.takeWhile (· ≠ 10)
      if tail.length ≤ capacity then all.size - tail.length else all.size
  | .full =>
      if all.size ≤ capacity then 0 else all.size - (all.size - capacity) % capacity

/-- Write bytes to a stream that can be written. -/
def write (x : Stream) (bytes : ByteArray) (h : Host) : Stream × Host :=
  match x.target with
  | some (.commandInput _) => ({ x with pending := x.pending ++ bytes }, h)
  | some .sink => (x, h)
  | _ =>
      let all := x.pending ++ bytes
      let n := x.due all
      if n = 0 then ({ x with pending := all }, h)
      else { x with pending := all.extract n all.size }.emit (all.extract 0 n) h

/-! ## Reading -/

/-- All that can be read, and the place from which on. -/
def contents (x : Stream) (h : Host) : ByteArray × Nat :=
  if x.canRead then match x.target with
    | some .input => (x.pending ++ ⟨h.input.toArray⟩, 0)
    | some (.file id) => (h.files.bytesOf id, x.position)
    | some (.commandOutput bytes _) => (bytes, x.position)
    | _ => (.empty, 0)
  else (.empty, 0)

/-- The stream after so many bytes were read, and so many were looked at. -/
def advance (x : Stream) (read looked : Nat) (h : Host) : Stream × Host :=
  match x.target with
  | some .input =>
      let missing := looked - x.pending.size
      let taken := (missing + capacity - 1) / capacity * capacity
      let all := x.pending ++ ⟨(h.input.take taken).toArray⟩
      ({ x with pending := all.extract read all.size },
        { h with input := h.input.drop taken })
  | _ => ({ x with position := x.position + read }, h)

/-- Why reading fails. -/
def readFault? (x : Stream) : Option Errno :=
  if !x.canRead then some Errno.badDescriptor
  else match x.target with
    | some .directory => some Errno.isDirectory
    | _ => none

/-! ## Places -/

/-- Where a place is counted from. -/
inductive Origin where
  | start
  | current
  | finish

/-- Go to a place; what is pending goes out before. -/
def seek (x : Stream) (origin : Origin) (offset : Int) (h : Host) :
    Except Errno Nat × Stream × Host :=
  let size? : Option Nat := match x.target with
    | some (.file id) => some (h.files.bytesOf id).size
    | some .directory | some .sink => some 0
    | _ => none
  match size? with
  | none => (.error Errno.illegalSeek, x, h)
  | some size =>
      let (x, h) := x.flush h
      let size := match x.target with
        | some (.file id) => (h.files.bytesOf id).size
        | _ => size
      let base : Int := match origin with
        | .start => 0
        | .current => x.position
        | .finish => size
      let place := base + offset
      if place < 0 then (.error Errno.invalid, x, h)
      else (.ok place.toNat, { x with position := place.toNat }, h)

/-! ## Closing -/

/-- Close a stream; a command that reads what was written is run now. -/
def close (x : Stream) (h : Host) : Option Ending × Stream × Host :=
  let (x, h) := x.flush h
  let closed := { x with target := none, pending := .empty }
  match x.target with
  | some (.commandInput line) =>
      let (ending, h) := h.feed line x.pending
      (some ending, closed, h)
  | some (.commandOutput _ ending) => (some ending, closed, h)
  | _ => (none, closed, h)

end Stream

end LuaShell.Lua
