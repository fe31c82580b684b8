/-!
# Flags

The arguments of the command line as a list of actions, in their order.  A flag has
a long name and may have a short one; an argument that is no flag is a script file.
-/

namespace LuaShell

/-- One action that the command line asks for. -/
inductive Startup where
  | shell
  | noShell
  /-- Run this source. -/
  | inline (source : String)
  /-- A flag without any effect. -/
  | ignored (flag : String)
  | help
  | version
  | debug
  | unknown (flag : String)
  | file (path : String)
  deriving DecidableEq

/-- What a flag means. -/
inductive FlagMeaning where
  | shell
  | noShell
  | inline
  | ignored
  | help
  | version
  | debug
  deriving DecidableEq

/-- A flag, its names and its description. -/
structure Flag where
  short : Option String
  long : String
  description : String
  meaning : FlagMeaning

namespace Flag

/-- All flags, in the order of the help text. -/
def all : List Flag :=
  [⟨some "-h", "--help", "Print this help message", .help⟩,
   ⟨some "-v", "--version", "Show version information", .version⟩,
   ⟨none, "--shell", "Start the interactive shell after running scripts", .shell⟩,
   ⟨none, "--no-shell", "Do not start the interactive shell", .noShell⟩,
   ⟨some "-e", "--execute", "Run the given Lua source", .inline⟩,
   ⟨some "-f", "--file", "Ignored; plain arguments are run as script files", .ignored⟩,
   ⟨some "-d", "--debug", "Enable debug output", .debug⟩]

/-- The meaning of an argument that is a flag. -/
def meaning? (argument : String) : Option FlagMeaning :=
  (all.find? fun f => f.short = some argument || f.long = argument).map (·.meaning)

/-- The action of an argument that is not the flag of a source. -/
def action (argument : String) : Option FlagMeaning → Startup
  | some .shell => .shell
  | some .noShell => .noShell
  | some .inline => .unknown argument
  | some .ignored => .ignored argument
  | some .help => .help
  | some .version => .version
  | some .debug => .debug
  | none => if argument.startsWith "-" then .unknown argument else .file argument

/-- The actions of a list of arguments. The source of an inline flag is the next argument,
whatever it looks like; without one the flag is unknown. -/
def parse : List String → List Startup
  | [] => []
  | [a] => [action a (meaning? a)]
  | a :: b :: rest =>
      match meaning? a with
      | some .inline => .inline b :: parse rest
      | m => action a m :: parse (b :: rest)

/-- A text with blanks after it, up to a width. -/
def padRight (width : Nat) (text : String) : String :=
  text ++ String.ofList (List.replicate (width - text.length) ' ')

/-- One line of the help text. -/
def helpLine (f : Flag) : String :=
  let short := match f.short with
    | some s => s ++ ","
    | none => ""
  s!"  {padRight 4 short} {padRight 15 f.long} {f.description}\n"

/-- The help text. -/
def helpText : String :=
  "Usage: luash [OPTIONS] [SCRIPT...]\n\nOptions:\n" ++ String.join (all.map helpLine)

end Flag

end LuaShell
