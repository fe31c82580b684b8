import LuaShell.Command.Basic

/-!
# The shell

A shell is a machine, the registry of the hooks that are bound in it, and whether the
interactive loop is to start.  Adding and removing hooks changes the registry and the
globals of the engine together.
-/

namespace LuaShell

open Lua (Value)

/-- Why the shell failed. -/
inductive ShellError where
  /-- A line of input could not be read. -/
  | readline (cause : IoError)
  | io (cause : IoError)
  | engine (cause : EngineError)
  | directory (cause : PathError)
  | script (cause : ScriptError)
  | unreadable (path : String) (cause : IoError)

namespace ShellError

/-- The wording of a failure. -/
def message : ShellError → String
  | .readline cause => s!"Readline error: {cause.message}"
  | .io cause => s!"IO error: {cause.message}"
  | .engine cause => s!"Lua error: {cause.message}"
  | .directory cause => cause.message
  | .script cause => cause.message
  | .unreadable path cause => s!"cannot read file {path}: {cause.message}"

end ShellError

/-- A shell over an engine with states of type `ε`. -/
structure Shell (ε : Type) where
  machine : Machine ε
  registry : Registry
  /-- Whether the interactive loop starts after the actions of the command line. -/
  runShell : Bool

namespace Shell

variable {ε χ : Type} (E : Engine ε χ)

/-- What an operation answers, and the shell after it. -/
abbrev Result (ε α : Type) := Except ShellError α × Shell ε

/-- The version of this shell. -/
def version : String := "0.1.0"

/-- The loop starts by itself only when there are no arguments. -/
def runShellFor (arguments : List String) : Bool :=
  arguments.isEmpty

/-! ## Hooks -/

/-- Make a callback the value of a global. -/
def bind (name : String) (callback : Callback) (m : Machine ε) :
    Except ShellError Unit × Machine ε :=
  let (hook, m) := E.makeHook callback m
  let (answer, m) := E.setGlobal name hook m
  (answer.mapError .engine, m)

/-- Make a global nil. -/
def unbind (name : String) (m : Machine ε) : Except ShellError Unit × Machine ε :=
  let (answer, m) := E.setGlobal name .nil m
  (answer.mapError .engine, m)

/-- Bind hooks one after the other. -/
def bindAll : List Hook → Machine ε → Except ShellError Unit × Machine ε
  | [], m => (.ok (), m)
  | hook :: rest, m => match bind E hook.name hook.callback m with
    | (.ok (), m) => bindAll rest m
    | failed => failed

/-- A shell with the hooks of a registry. -/
def build (registry : Registry) (runShell : Bool) (m : Machine ε) : Result ε Unit :=
  match bindAll E registry.hooks m with
  | (.ok (), m) =>
      let m := m.mapHost (·.record .debug "luash::shell" s!"bound {registry.size} hooks")
      (.ok (), ⟨m, registry, runShell⟩)
  | (.error e, m) => (.error e, ⟨m, registry, runShell⟩)

/-- The machine on which a name has turned out to be taken: that is recorded. -/
def nameTaken (name : String) (m : Machine ε) : Machine ε :=
  m.mapHost (·.record .debug "luash::core::hooks" s!"hook {name} already registered")

/-- Add a hook; false if its name is taken. -/
def addHook (name : String) (callback : Callback) (s : Shell ε) : Result ε Bool :=
  match s.registry.register name callback with
  | (false, _) => (.ok false, { s with machine := nameTaken name s.machine })
  | (true, registry) =>
      let (answer, m) := bind E name callback s.machine
      (answer.map fun _ => true, { s with machine := m, registry := registry })

/-- Take a hook out of the globals after it has been taken out of the registry. -/
def finishRemoval (taken : Option (Hook × Registry)) (s : Shell ε) : Result ε Bool :=
  match taken with
  | none => (.ok false, s)
  | some (hook, registry) =>
      let (answer, m) := unbind E hook.name s.machine
      (answer.map fun _ => true, { s with machine := m, registry := registry })

/-- Remove the hook of a name; false if there is none. -/
def removeHook (name : String) (s : Shell ε) : Result ε Bool :=
  finishRemoval E (s.registry.takeName name) s

/-- Remove the first hook of a callback; false if there is none. -/
def removeHookCallback (callback : Callback) (s : Shell ε) : Result ε Bool :=
  finishRemoval E (s.registry.takeCallback callback) s

/-! ## Running units -/

/-- The version that the engine names. -/
def engineVersion (m : Machine ε) : String × Machine ε :=
  match E.getGlobal "_VERSION" m with
  | (.error _, m) => ("Lua", m)
  | (.ok v, m) => match v.asText? with
    | .ok text => (text, m)
    | .error _ => ("Lua", m)

/-- The line that names the shell and the engine. -/
def banner (m : Machine ε) : String × Machine ε :=
  let (engine, m) := engineVersion E m
  (s!"[luash {version}] {engine}", m)

/-- Read and run a script file, and report its failure. -/
def runFile (path : String) (m : Machine ε) : Except ShellError (List Value) × Machine ε :=
  match m.host.files.readText (m.host.resolve path) with
  | .error e => (.error (.unreadable path e), m)
  | .ok source =>
      let (answer, m) := E.execute source path .batch m
      (answer.mapError .script, m)

end Shell

end LuaShell
