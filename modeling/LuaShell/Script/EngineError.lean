import LuaShell.Command.Error

/-!
# Failures of the script engine

What compiling or running a script can end in.  A failure that passes through a
native function is wrapped together with the call stack at that point, so wrappings
can be nested to any depth.
-/

namespace LuaShell

/-- A failure of the engine. -/
inductive EngineError where
  /-- The source is no chunk; `incomplete` if more text could make it one. -/
  | compile (message : String) (incomplete : Bool)
  | runtime (message : String)
  | memory (message : String)
  /-- A value is not of the kind that was asked for. -/
  | conversion (source target : String) (detail : Option String)
  /-- A failure inside a native function, and the call stack there. -/
  | callback (traceback : String) (cause : EngineError)
  | context (text : String) (cause : EngineError)
  | external (message : String)
  | command (cause : CommandError)

namespace EngineError

/-- The heading of a call stack. -/
def marker : String := "stack traceback:"

/-- Without the headings at the start. -/
def dropMarkers : Nat → List Char → List Char
  | 0, cs => cs
  | n + 1, cs =>
      if marker.toList.isPrefixOf cs then dropMarkers n (cs.drop marker.length) else cs

/-- What stands before the first place of `part` in a text, and from there on. -/
def splitAt? (part : List Char) : List Char → Option (List Char × List Char)
  | [] => if part.isEmpty then some ([], []) else none
  | c :: cs =>
      if part.isPrefixOf (c :: cs) then some ([], c :: cs)
      else (splitAt? part cs).map fun r => (c :: r.1, r.2)

/-- The outer call stack, shown as a mark in the inner one if it is a part of that. -/
def nestedTrace (outer inner : String) : String :=
  let body := Text.trim (dropMarkers outer.length outer.toList)
  match splitAt? body inner.toList with
  | some (before, after) =>
      String.ofList before ++ ">" ++ String.ofList (Text.trimEnd after)
  | none => String.ofList (Text.trimEnd inner.toList)

/-- The text of a wrapping: its innermost cause and the call stack. -/
def wrapped (cause traceback : String) (inner : Option String) : String :=
  cause ++ "\n" ++ (match inner with
    | some inner => nestedTrace traceback inner
    | none => String.ofList (Text.trimEnd traceback.toList)) ++ "\n"

/-- The wording, with what is to be said of wrappings above this failure: the outermost call
stack and the innermost one so far. -/
def messageUnder : Option (String × Option String) → EngineError → String
  | none, .callback traceback cause => messageUnder (some (traceback, none)) cause
  | some (outer, _), .callback traceback cause =>
      messageUnder (some (outer, some traceback)) cause
  | above, .context text cause =>
      finish above (text ++ "\n" ++ messageUnder none cause)
  | above, .compile message _ => finish above s!"syntax error: {message}"
  | above, .runtime message => finish above s!"runtime error: {message}"
  | above, .memory message => finish above s!"memory error: {message}"
  | above, .conversion source target detail =>
      finish above (s!"error converting Lua {source} to {target}" ++
        (match detail with
          | some text => s!" ({text})"
          | none => ""))
  | above, .external message => finish above message
  | above, .command cause => finish above cause.message
where
  /-- Put the call stacks below a text. -/
  finish : Option (String × Option String) → String → String
    | none, text => text
    | some (outer, inner), text => wrapped text outer inner

/-- The wording of a failure. -/
def message (e : EngineError) : String :=
  messageUnder none e

/-- The code of a request to leave the shell, below any wrappings by native functions. -/
def exitRequest? : EngineError → Option Int
  | .callback _ cause => exitRequest? cause
  | .command (.exit code) => some code
  | _ => none

end EngineError

end LuaShell
