import LuaShell.Process.Request

/-!
# Launching a program

A platform starts programs and lets one wait for them.  `launch` asks it to start
a request and waits through all interruptions; when the request is verbose it
reports the start and the end.  A text with a zero character is refused before
the platform is asked.
-/

namespace LuaShell

/-- What waiting for a program tells in the end. -/
inductive Ending where
  | exited (code : Int)
  | killed
  | unknown (cause : Errno)

/-- A program that was started. `run` lets it do its work; waiting for it is interrupted
`interruptions` times before its end is told, and `interrupted` is what happens each time. -/
structure Child (σ : Type) where
  pid : Nat
  interruptions : Nat
  interrupted : σ → σ
  run : σ → Ending × σ

/-- What the system does for the shell, on states of type `σ`. -/
structure Platform (σ : Type) where
  /-- Start a program, given its name and its arguments. -/
  start : List String → σ → Except Errno (Child σ) × σ
  /-- Write a text to the standard output. -/
  write : String → σ → σ
  /-- Write a log record. -/
  trace : String → σ → σ

namespace Launch

variable {σ : Type}

/-- The first text that holds a zero character. -/
def offending? (texts : List String) : Option String :=
  texts.find? fun t => t.toList.contains (Char.ofNat 0)

/-- What is reported when a program has started. -/
def startReport (pid : Nat) : String :=
  s!"Process with PID {pid} is currently running...\n"

/-- What is reported when a program has ended. -/
def endReport (pid : Nat) : String :=
  s!"Process {pid} ended execution!\n"

/-- Wait again after every interruption. -/
def await (child : Child σ) : Nat → σ → Ending × σ
  | 0, s => child.run s
  | n + 1, s => await child n (child.interrupted s)

/-- Write a report if it is asked for. -/
def report (platform : Platform σ) (verbose : Bool) (text : String) (s : σ) : σ :=
  if verbose then platform.write text s else s

/-- What an ending means for the one who waited. -/
def conclude (platform : Platform σ) (verbose : Bool) (pid : Nat) (s : σ) :
    Ending → Except ProcessError Exit × σ
  | .exited code => (.ok ⟨pid, some code⟩, report platform verbose (endReport pid) s)
  | .killed => (.ok ⟨pid, none⟩, report platform verbose (endReport pid) s)
  | .unknown cause => (.error (.wait (IoError.system cause).message), s)

/-- Start a program and wait for its end. -/
def launch (platform : Platform σ) (r : Request) (s : σ) : Except ProcessError Exit × σ :=
  match offending? (r.program :: r.arguments) with
  | some text => (.error (.invalidArgument text), s)
  | none =>
      match platform.start (r.program :: r.arguments) s with
      | (.error cause, s) => (.error (.launch (IoError.system cause).message), s)
      | (.ok child, s) =>
          let s := platform.trace s!"spawned {r.program} as pid {child.pid}" s
          let s := report platform r.verbose (startReport child.pid) s
          let (ending, s) := await child child.interruptions s
          conclude platform r.verbose child.pid s ending

end Launch

end LuaShell
