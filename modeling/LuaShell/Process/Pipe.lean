import LuaShell.Process.Program

/-!
# Command lines with pipes to them

A command line that is run to its end, with its output caught or its input given.
-/

namespace LuaShell.Host

/-- The words that run a command line. -/
def shellWords (line : String) : List String :=
  ["/bin/sh", "-c", line]

/-- Run a command line to its end. -/
def runLine (h : Host) (line : String) : Ending × Host :=
  match Program.start (shellWords line) h with
  | (.ok child, h) => child.run h
  | (.error _, h) => (.exited 127, h)

/-- Run a command line and catch what it writes. -/
def catchOutput (h : Host) (line : String) : ByteArray × Ending × Host :=
  let (ending, after) := runLine { h with output := .empty } line
  (after.output, ending, { after with output := h.output })

/-- Run a command line that reads the given bytes. -/
def feed (h : Host) (line : String) (bytes : ByteArray) : Ending × Host :=
  let (ending, after) := runLine { h with input := bytes.data.toList } line
  (ending, { after with input := h.input })

end LuaShell.Host
