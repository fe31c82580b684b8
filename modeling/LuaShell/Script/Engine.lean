import LuaShell.Script.Diagnostic
import LuaShell.Lua.Value
import LuaShell.Host
import LuaShell.Hook.Registry

/-!
# Script engines

What the shell asks of an engine that runs scripts: to compile a source, to run
what came of it, to call a function, and to look at and change globals and tables.
A chunk may do anything to the host and to the engine's own state, and it may call
the hooks that were bound.
-/

namespace LuaShell

open Lua (Value)

/-- The host together with the state of an engine. -/
structure Machine (ε : Type) where
  host : Host
  engine : ε

/-- What running something on a machine answers, and the machine after it. -/
abbrev Answer (ε α : Type) := Except EngineError α × Machine ε

/-- An engine with states of type `ε` and compiled chunks of type `χ`. -/
structure Engine (ε χ : Type) where
  /-- Compile a source under a chunk name. -/
  compile : (source name : String) → Except EngineError χ
  /-- Run a chunk without arguments. -/
  run : χ → Machine ε → Answer ε (List Value)
  /-- Call a value. -/
  call : Value → List Value → Machine ε → Answer ε (List Value)
  /-- Read a global; this may run code of the script. -/
  getGlobal : String → Machine ε → Answer ε Value
  /-- Assign a global; this may run code of the script. -/
  setGlobal : String → Value → Machine ε → Answer ε Unit
  /-- A function that calls a hook. -/
  makeHook : Callback → Machine ε → Value × Machine ε
  /-- A table with the given entries, assigned in order. -/
  makeTable : List (Value × Value) → Machine ε → Value × Machine ε
  /-- What a table holds, in the order in which it is gone through. -/
  entries : Value → Machine ε → List (Value × Value)

namespace Machine

variable {ε : Type}

/-- Change the host. -/
def mapHost (m : Machine ε) (f : Host → Host) : Machine ε :=
  { m with host := f m.host }

end Machine

/-- Text that a native function asks for: a string, or a number as text. -/
def Lua.Value.asText? : Value → Except EngineError String
  | .str bytes => match Text.ofBytes? bytes with
    | .ok s => .ok s
    | .error e => .error (.conversion "string" "String" (some e.message))
  | .int n => .ok (Value.intText n)
  | .num x => .ok (Value.floatText x)
  | v => .error (.conversion v.kindName "String" (some "expected string or number"))

namespace Engine

variable {ε χ : Type} (E : Engine ε χ)

/-- The text of a value, by the global `tostring`. When that is of no use the kind of the
value is shown. -/
def displayValue (v : Value) (m : Machine ε) : String × Machine ε :=
  match v with
  | .str bytes => (Text.ofBytesLossy bytes, m)
  | v =>
      let fallback := s!"<{v.kindName}>"
      match E.getGlobal "tostring" m with
      | (.ok (.func id), m) => match E.call (.func id) [v] m with
        | (.ok values, m) => match ((values.head?).getD .nil).asText? with
          | .ok text => (text, m)
          | .error _ => (fallback, m)
        | (.error _, m) => (fallback, m)
      | (_, m) => (fallback, m)

/-- The texts of some values, in order. -/
def displayEach : List Value → Machine ε → List String × Machine ε
  | [], m => ([], m)
  | v :: vs, m =>
      let (text, m) := E.displayValue v m
      let (texts, m) := displayEach vs m
      (text :: texts, m)

/-- The texts of some values with a separator between them. -/
def displayValues (separator : String) (vs : List Value) (m : Machine ε) : String × Machine ε :=
  let (texts, m) := E.displayEach vs m
  (separator.intercalate texts, m)

end Engine

end LuaShell
