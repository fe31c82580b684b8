import LuaShell.Shell.CommandLine

/-!
# The program

Arguments, environment and standard input go in; output and exit code come out.  The
shell works on files in memory: those that the arguments name are read before it
starts.
-/

namespace LuaShell.Executable

/-- The variables that the shell looks at. -/
def watched : List String :=
  ["HOME", "PATH", "TERM", "NO_COLOR", "CLICOLOR", "CLICOLOR_FORCE", "COLORTERM",
   "TERM_PROGRAM", CommandLine.logVariable]

/-- The variables that are set. -/
def readEnvironment : IO (List (String × String)) := do
  let mut found := []
  for name in watched do
    if let some value ← IO.getEnv name then found := (name, value) :: found
  return found.reverse

/-- Put a file at a place below the root, if all directories on the way can be made. -/
def place (fs : FileSystem) (name : String) (bytes : ByteArray) : FileSystem :=
  let path := Path.ofString name
  let fs := match path.parent with
    | some p => (fs.makeAllDirectories p).2
    | none => fs
  match fs.writeFile path bytes with
  | .ok fs => fs
  | .error _ => fs

/-- The files that the arguments name. -/
def readFiles (names : List String) : IO FileSystem := do
  let mut fs := FileSystem.empty
  for name in names do
    match ← (IO.FS.readBinFile name).toBaseIO with
    | .ok bytes => fs := place fs name bytes
    | .error _ => pure ()
  return fs

/-- All that is left of a stream. -/
partial def readAll (stream : IO.FS.Stream) (read : ByteArray) : IO ByteArray := do
  let piece ← stream.read 65536
  if piece.isEmpty then return read else readAll stream (read ++ piece)

/-- Write bytes to a stream. -/
def writeAll (stream : IO.FS.Stream) (bytes : ByteArray) : IO Unit := do
  stream.write bytes
  stream.flush

/-- Run the shell on what the system gives. -/
def shell (arguments : List String) : IO UInt32 := do
  let environment ← readEnvironment
  let files ← readFiles arguments
  let input ← readAll (← IO.getStdin) .empty
  let home := Host.homeOf environment
  let host : Host :=
    ⟨files, environment, ⟨Path.rootDirectory, some home⟩, .plain, .posix, .off,
      input.data.toList, .empty, .empty, #[], 1, 0⟩
  let (code, host) := CommandLine.run arguments host
  writeAll (← IO.getStdout) host.output
  writeAll (← IO.getStderr) host.errors
  return code.toUInt32

end LuaShell.Executable

def main (arguments : List String) : IO UInt32 :=
  LuaShell.Executable.shell arguments
