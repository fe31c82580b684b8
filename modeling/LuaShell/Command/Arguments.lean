import LuaShell.Script.Unit

/-!
# Arguments of commands

Commands take the values that a script passes to them by position.  Nil counts as
absent, and where a text is asked for a number will do.
-/

namespace LuaShell

open Lua (Value)

/-- The values that were passed to a command. -/
structure Arguments where
  command : String
  values : List Value

namespace Arguments

/-- An argument that is there and not nil. -/
def get? (a : Arguments) (i : Nat) : Option Value :=
  match a.values[i]? with
  | some .nil => none
  | v => v

/-- The failure of an argument that is of no use. -/
def invalid (a : Arguments) (message : String) : EngineError :=
  .command (.invalidArgument a.command message)

/-- A string as text, or the text of a number in full. -/
def text (a : Arguments) (v : Value) (name : String) : Except EngineError String :=
  match v with
  | .str bytes => match Text.ofBytes? bytes with
    | .ok s => .ok s
    | .error e => .error (.conversion "string" "&str" (some e.message))
  | .int n => .ok (Value.intText n)
  | .num x => .ok (Notation.positional x)
  | v => .error (a.invalid s!"expected a string for '{name}', got {v.kindName}")

/-- The text of an argument that has to be there. -/
def string (a : Arguments) (i : Nat) (name : String) : Except EngineError String :=
  match a.get? i with
  | none => .error (.command (.missingArgument a.command name))
  | some v => a.text v name

/-- A switch is on unless the argument is false. -/
def flag (a : Arguments) (i : Nat) : Bool :=
  match a.get? i with
  | some (.bool false) => false
  | _ => true

end Arguments

/-- What a command answers, and the host after it. -/
abbrev CommandResult := Except EngineError (List Value) × Host

namespace Host

/-- A failure of the operation itself is reported, and the command answers nothing. -/
def settle (h : Host) : Except CommandError Unit → CommandResult
  | .ok () => (.ok [], h)
  | .error e =>
      let h := h.record .debug "luash::core::commands" s!"command failed: {e.detail}"
      (.ok [], h.reportError e.message)

end Host

end LuaShell
