import LuaShell.Command.Directory
import LuaShell.Process.Program
import LuaShell.Number.Read

/-!
# Commands that run something

`execute` runs script files, `runSync` runs a program, and `quit` asks the shell to
end.
-/

namespace LuaShell.RunCommand

open Lua (Value)

/-! ## Leaving the shell -/

/-- The bounds of an exit code. -/
def minCode : Int := -2147483648

def maxCode : Int := 2147483647

/-- The code that a text asks for: an integer, or a double cut to one; anything else asks
for zero. -/
def exitCode (text : String) : Int :=
  let cs := Text.trim text.toList
  match Read.intWithin? minCode maxCode cs with
  | some n => n
  | none => match Read.float? cs with
    | some x => (Binary64.ofFloat x).clamped minCode maxCode
    | none => 0

/-- The code that the argument of `quit` asks for. -/
def quitCode (a : Arguments) : Except EngineError Int :=
  match a.get? 0 with
  | some (.int n) => .ok (if minCode ≤ n.toInt && n.toInt ≤ maxCode then n.toInt else 1)
  | some (.num x) => .ok ((Binary64.ofFloat x).clamped minCode maxCode)
  | some (.str s) => (a.text (.str s) "code").map exitCode
  | _ => .ok 0

/-- Ask the shell to end. -/
def quit (values : List Value) (h : Host) : CommandResult :=
  match quitCode ⟨"quit", values⟩ with
  | .ok code => (.error (.command (.exit code)), h)
  | .error e => (.error e, h)

/-! ## Programs -/

/-- The texts of a table of parameters: those of the integer keys, and those of the others
with their keys. -/
def parameterTexts (a : Arguments) :
    List (Value × Value) → Except EngineError (List (Int × String) × List (String × String))
  | [] => .ok ([], [])
  | (key, value) :: rest =>
      match a.text value "params" with
      | .error e => .error e
      | .ok text => match key with
        | .int i => (parameterTexts a rest).map fun r => ((i.toInt, text) :: r.1, r.2)
        | key => match a.text key "params" with
          | .error e => .error e
          | .ok name => (parameterTexts a rest).map fun r => (r.1, (name, text) :: r.2)

/-- Whether one named parameter goes before another: by key, then by value. -/
def namedBefore (a b : String × String) : Bool :=
  a.1 < b.1 || (a.1 = b.1 && a.2 ≤ b.2)

/-- The arguments that a table of parameters stands for: the integer keys in order, then
the words of the named parameters. -/
def parameters (a : Arguments) (entries : List (Value × Value)) :
    Except EngineError (List String) :=
  match parameterTexts a entries with
  | .error e => .error e
  | .ok (positional, named) =>
      let inOrder := positional.mergeSort fun x y => x.1 ≤ y.1
      let line := Request.formatParameters (named.mergeSort namedBefore)
      .ok (inOrder.map (·.2) ++ Request.splitCommandLine line)

/-- The program that is named by the first argument. -/
def programText? (a : Arguments) : Option (Except EngineError String) :=
  match a.get? 0 with
  | some (.str s) => some (a.text (.str s) "program")
  | some (.int n) => some (a.text (.int n) "program")
  | some (.num x) => some (a.text (.num x) "program")
  | _ => none

section

variable {ε χ : Type} (E : Engine ε χ)

/-- The arguments for the program. -/
def programArguments (a : Arguments) (m : Machine ε) : Except EngineError (List String) :=
  match a.get? 1 with
  | some (.table id) => parameters a (E.entries (.table id) m)
  | some v => (a.text v "params").map fun text => [text]
  | none => .ok []

/-- Run a program and answer its code. -/
def runSync (values : List Value) (m : Machine ε) : Answer ε (List Value) :=
  let a : Arguments := ⟨"runSync", values⟩
  match programText? a with
  | none => (.ok [], m.mapHost (·.reportError "No executable filename or path passed!"))
  | some (.error e) => (.error e, m)
  | some (.ok program) => match programArguments E a m with
    | .error e => (.error e, m)
    | .ok arguments =>
        match m.host.spawn ⟨program, arguments, a.flag 2⟩ with
        | (.error e, h) => (.ok [], { m with host := h.reportError e.message })
        | (.ok exit, h) =>
            let code := match exit.code with
              | some n => Value.int (Int64.ofInt n)
              | none => .nil
            (.ok [code], { m with host := h })

/-! ## Script files -/

/-- Run one script file, without any report. -/
def executeFile (raw : String) (m : Machine ε) : Answer ε Unit :=
  let path := m.host.resolve raw
  match m.host.files.readText path with
  | .error e => (.error (.command (.unreadable raw e)), m)
  | .ok source =>
      let m := m.mapHost
        (·.record .debug "luash::core::commands::general" s!"executing {path.display}")
      match E.execute source raw .quiet m with
      | (.ok _, m) => (.ok (), m)
      | (.error (.exit code), m) => (.error (.command (.exit code)), m)
      | (.error (.failed d), m) => (.error (.command (.executionFailed raw d.display)), m)

/-- Run the script files that the arguments from the `i`-th on name, in order, up to the
first failure. -/
def executeFrom (a : Arguments) : Nat → Nat → Machine ε → Answer ε (List Value)
  | 0, _, m => (.ok [], m)
  | n + 1, i, m =>
      match a.string i "filename" with
      | .error e => (.error e, m)
      | .ok raw => match executeFile E raw m with
        | (.ok (), m) => executeFrom a n (i + 1) m
        | (.error e, m) => (.error e, m)

/-- Run script files in order, up to the first failure. -/
def execute (values : List Value) (m : Machine ε) : Answer ε (List Value) :=
  let a : Arguments := ⟨"execute", values⟩
  match a.get? 0 with
  | none => (.error (.command (.missingArgument "execute" "filename")), m)
  | some _ => executeFrom E a values.length 0 m

end

end LuaShell.RunCommand
