/-!
# Colours

What the shell marks on a terminal and how.  A terminal that shows no colours gets
the bare text.  Whether it shows them is read off the environment.
-/

namespace LuaShell

/-- What is marked. -/
inductive Accent where
  | error
  | warning
  | prompt
  | directory
  | command
  | heading

/-- The colour of an accent, as terminals number them. -/
def Accent.colour : Accent → Nat
  | .error => 31
  | .prompt => 32
  | .warning => 33
  | .directory => 34
  | .heading => 35
  | .command => 36

/-- Whether marks are shown. -/
structure Palette where
  coloured : Bool
  deriving DecidableEq

namespace Palette

def plain : Palette := ⟨false⟩

/-- A text with its mark: colour and bold face on, text, all off. -/
def paint (p : Palette) (accent : Accent) (text : String) : String :=
  if p.coloured then s!"\x1b[{accent.colour}m\x1b[1m{text}\x1b[0m" else text

def errorTag (p : Palette) : String := p.paint .error "[Error]"

def warningTag (p : Palette) : String := p.paint .warning "[Warning]"

/-- A text in lower case, as far as letters without marks come of it: two capitals outside
the basic ones become such letters too. -/
def lowered (text : String) : String :=
  String.ofList (text.toLower.toList.flatMap fun c =>
    if c = '\u212a' then ['k'] else if c = '\u0130' then ['i', '\u0307'] else [c])

/-- Whether `part` stands somewhere in `text`. -/
def occurs (part text : String) : Bool :=
  (text.splitOn part).length ≠ 1

/-- Parts of the names of terminals that show colours. -/
def terminals : List String :=
  ["xterm-truecolor", "konsole", "tmux", "screen-truecolor", "alacritty", "kitty", "terminator",
   "terminology", "eterm", "rxvt-unicode", "xterm-ghostty", "vte", "termious", "256", "color",
   "ansi", "xterm", "screen"]

/-- Programs that show colours whatever terminal they name. -/
def programs : List String :=
  ["iTerm.app", "Apple_Terminal", "Hyper"]

/-- The palette for an environment. -/
def ofEnvironment (setting? : String → Option String) : Palette :=
  if (setting? "NO_COLOR").isSome || setting? "CLICOLOR" = some "0" then plain
  else
    let deep := (setting? "COLORTERM").any fun v => occurs "truecolor" v || occurs "24bit" v
    let terminal := (setting? "TERM").any fun v => terminals.any (occurs · (lowered v))
    let program := (setting? "TERM_PROGRAM").any programs.contains
    ⟨deep || terminal || program || setting? "CLICOLOR_FORCE" = some "1"⟩

end Palette

end LuaShell
