import LuaShell.Shell.Flags
import LuaShell.Shell.Loop

/-!
# Startup

The actions of the command line, one after the other, and then the interactive loop
if it has not been turned off.  The first action that fails ends the run with the
code one; a unit that asks to leave ends it with the code it asks for.
-/

namespace LuaShell

open Lua (Value)

/-- What is to be done after an action. -/
inductive Flow where
  | proceed
  | failed
  | exit (code : Int)
  deriving DecidableEq

namespace Shell

variable {ε χ : Type} (E : Engine ε χ)

/-- What is to be done after a unit. A failure that has not been reported is reported. -/
def afterUnit (answer : Except ShellError (List Value)) (m : Machine ε) : Flow × Machine ε :=
  match answer with
  | .ok _ => (.proceed, m)
  | .error (.script (.exit code)) => (.exit code, m)
  | .error (.script (.failed _)) => (.failed, m)
  | .error e => (.failed, m.mapHost (·.reportError e.message))

/-- Carry out one action. -/
def apply (action : Startup) (s : Shell ε) : Flow × Shell ε :=
  match action with
  | .shell => (.proceed, { s with runShell := true })
  | .noShell => (.proceed, { s with runShell := false })
  | .ignored _ | .debug => (.proceed, s)
  | .help => (.proceed, { s with machine := s.machine.mapHost (·.print Flag.helpText) })
  | .version =>
      let (text, m) := banner E s.machine
      (.proceed, { s with machine := m.mapHost (·.printLine text) })
  | .unknown flag =>
      let text := s!"used unknown flag {flag}\nTry --help for options"
      (.proceed, { s with machine := s.machine.mapHost (·.reportWarning text) })
  | .inline source =>
      let (answer, m) := E.execute source inlineOrigin .batch s.machine
      let (flow, m) := afterUnit (answer.mapError .script) m
      (flow, { s with machine := m, runShell := false })
  | .file path =>
      let m := s.machine.mapHost (·.record .info "luash::shell" s!"running {path}")
      let (answer, m) := runFile E path m
      let (flow, m) := afterUnit answer m
      (flow, { s with machine := m })

/-- Start the loop if it is on. -/
def finish (s : Shell ε) : Result ε Int :=
  if s.runShell then
    let (answer, m) := Loop.start Loop.piped E s.machine
    (answer.map (·.getD 0), { s with machine := m })
  else (.ok 0, s)

/-- Carry out the actions in order, then start the loop if it is on; the answer is the exit
code. -/
def run : List Startup → Shell ε → Result ε Int
  | [], s => finish E s
  | action :: rest, s => match apply E action s with
    | (.proceed, s) => run rest s
    | (.failed, s) => (.ok 1, s)
    | (.exit code, s) => (.ok code, s)

end Shell

end LuaShell
