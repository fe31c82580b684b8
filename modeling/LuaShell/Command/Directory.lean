import LuaShell.Command.Files

/-!
# Commands on the working directory

`cd` goes somewhere or tells where it is; `ls` lists what is there.
-/

namespace LuaShell.DirectoryCommand

open Lua (Value)

/-- The integer that a double is, as a number of steps; beyond sixty-four bits the most
there can be. -/
def stepsOfFloat? (x : Float) : Option UInt64 :=
  match (Binary64.ofFloat x).exactInt? with
  | some n => some (UInt64.ofNat (min n.natAbs (UInt64.size - 1)))
  | none => none

/-- Where the argument of `cd` leads. -/
def directoryTarget (a : Arguments) : Value → Except EngineError DirectoryTarget
  | .int n => .ok (.up (UInt64.ofNat n.toInt.natAbs))
  | .num x => match stepsOfFloat? x with
    | some n => .ok (.up n)
    | none => .error (a.invalid s!"cannot walk up {Notation.positional x} directories")
  | v => (a.text v "path").map fun raw => .path (Path.ofString raw)

/-- Change the working directory, or print it. -/
def changeDirectory (values : List Value) (h : Host) : CommandResult :=
  let a : Arguments := ⟨"cd", values⟩
  match a.get? 0 with
  | none => (.ok [], h.printLine (h.palette.paint .prompt h.directory.current.display))
  | some v => match directoryTarget a v with
    | .error e => (.error e, h)
    | .ok target =>
        let (answer, h) := h.changeDirectory target
        h.settle (answer.mapError .directory)

/-- One line of a listing. -/
structure Entry where
  filename : String
  isDirectory : Bool

/-- What stands in a directory, in the order of the directory. -/
def listEntries (fs : FileSystem) (p : Path) : Except CommandError (List Entry) :=
  match fs.readDirectory p with
  | .error e => .error (.io e)
  | .ok entries => .ok (entries.map fun e => ⟨(Path.mk e.1).display, e.2.isDir⟩)

/-- Print a listing, one name in a line. -/
def printEntries (h : Host) (entries : List Entry) : Host :=
  entries.foldl (fun h e =>
    h.printLine (if e.isDirectory then h.palette.paint .directory e.filename else e.filename)) h

section

variable {ε χ : Type} (E : Engine ε χ)

/-- A listing as one table for every entry. -/
def entryTables : List Entry → Machine ε → List Value × Machine ε
  | [], m => ([], m)
  | e :: es, m =>
      let (t, m) := E.makeTable
        [(.ofString "filename", .ofString e.filename),
         (.ofString "isDirectory", .bool e.isDirectory)] m
      let (ts, m) := entryTables es m
      (t :: ts, m)

/-- List the working directory, by printing or in a table. -/
def listFiles (values : List Value) (m : Machine ε) : Answer ε (List Value) :=
  match listEntries m.host.files m.host.directory.current with
  | .error e =>
      let (answer, h) := m.host.settle (.error e)
      (answer, { m with host := h })
  | .ok entries =>
      if (Arguments.mk "ls" values).flag 0 then (.ok [], m.mapHost (printEntries · entries))
      else
        let (tables, m) := entryTables E entries m
        let (t, m) := E.makeTable
          (tables.zipIdx.map fun e => (.int (Int64.ofNat (e.2 + 1)), e.1)) m
        (.ok [t], m)

end

end LuaShell.DirectoryCommand
