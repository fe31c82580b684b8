/-!
# Scripts of the system's command interpreter

What scripts are made of: words, whose parts are filled in when they are used, and
commands, which are put together from simple ones.
-/

namespace LuaShell.SystemShell

/-- A part of a word. What is in double quotes is not split and holds no patterns. -/
inductive Piece where
  | text (cs : List Char)
  | quoted (cs : List Char)
  /-- A parameter, and what is done with its value. -/
  | parameter (name : String) (action : List Char) (isQuoted : Bool)
  /-- The output of a script. -/
  | output (source : List Char) (isQuoted : Bool)
  | arithmetic (source : List Char) (isQuoted : Bool)

/-- A word. -/
abbrev Word := List Piece

/-- The text of a word that is not quoted in any way. -/
def Word.plain? : Word → Option String
  | [.text cs] => some (String.ofList cs)
  | _ => none

/-- What is done with a stream. -/
inductive Redirect where
  | read
  | write
  | append
  /-- It becomes another one. -/
  | duplicate
  /-- The word itself is read. -/
  | here

/-- The change of one stream. -/
structure Redirection where
  stream : Nat
  redirect : Redirect
  target : Word

/-- A command. -/
inductive Command where
  /-- Variables that are set, and a program with its arguments, on a line. -/
  | simple (line : Nat) (assignments : List (String × Word)) (words : List Word)
  | redirected (c : Command) (redirections : List Redirection)
  | pipeline (isNegated : Bool) (parts : List Command)
  | both (a b : Command)
  | either (a b : Command)
  | sequence (a b : Command)
  /-- The script goes on while the command runs. -/
  | background (c : Command)
  | subshell (body : Command)
  | conditional (condition body : Command) (otherwise : Option Command)
  | loop (isUntil : Bool) (condition body : Command)
  | forEach (name : String) (words : Option (List Word)) (body : Command)
  | choice (word : Word) (arms : List (List Word × Command))
  | function (name : String) (body : Command)

instance : Inhabited Command := ⟨.simple 1 [] []⟩

/-- What is wrong with a script. -/
inductive SyntaxFault where
  /-- A token that cannot stand there, and one that could. -/
  | unexpected (token : String) (expected : Option String)
  | unterminatedQuote
  /-- What closes something is not there. -/
  | missing (closing : String)
  | openBackquote
  /-- What follows `for` is no name. -/
  | badLoopVariable
  | endOfFile (expected : String)

/-- The wording of a fault. -/
def SyntaxFault.message : SyntaxFault → String
  | .unexpected token none => s!"Syntax error: {token} unexpected"
  | .unexpected token (some expected) =>
      s!"Syntax error: {token} unexpected (expecting {expected})"
  | .unterminatedQuote => "Syntax error: Unterminated quoted string"
  | .missing closing => s!"Syntax error: Missing '{closing}'"
  | .openBackquote => "Syntax error: EOF in backquote substitution"
  | .badLoopVariable => "Syntax error: Bad for loop variable"
  | .endOfFile expected => s!"Syntax error: end of file unexpected (expecting {expected})"

end LuaShell.SystemShell
