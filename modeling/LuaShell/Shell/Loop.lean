import LuaShell.Shell.Basic
import LuaShell.Text.Grapheme

/-!
# The interactive loop

Lines are read one by one and put together until they form a chunk or can no longer
become one; then they are run as one unit.  Blank lines between units say nothing.
The loop ends with the input, or when a unit asks to leave.

Before each line the loop hands a prompt to its line reader (`LineReader`), and it is
the reader who knows whether the terminal is shown the prompt.
-/

namespace LuaShell.Loop

/-- What reading a line yields. -/
inductive Line where
  | text (s : String)
  /-- The bytes of the line are no text. -/
  | malformed

/-- Bytes cut after every line feed; the feeds stay with their lines. -/
def cutLines : List UInt8 → List (List UInt8)
  | [] => []
  | b :: bs =>
      if b = 10 then [b] :: cutLines bs
      else match cutLines bs with
        | [] => [[b]]
        | l :: ls => (b :: l) :: ls

/-- A line without the line feed that ends it, and without a return before that. -/
def dropEnd (line : List Char) : List Char :=
  match line.reverse with
  | '\n' :: '\r' :: rest => rest.reverse
  | '\n' :: rest => rest.reverse
  | _ => line

/-- Read one line. -/
def readLine (bytes : List UInt8) : Line :=
  match Text.decode? bytes with
  | .error _ => .malformed
  | .ok cs => .text (Text.eraseBackspaces (String.ofList (dropEnd cs)))

/-- All lines of an input. -/
def readLines (input : List UInt8) : List Line :=
  (cutLines input).map readLine

/-- How a line is asked for: what the prompt that is handed over makes of the host. -/
abbrev LineReader := String → Host → Host

/-- Terminals that are shown the prompt, since they can be shown nothing better. -/
def plainTerminals : List String :=
  ["dumb", "cons25", "emacs"]

/-- Whether the terminal is shown the prompt. -/
def showsPrompt (h : Host) : Bool :=
  (h.setting? "TERM").any fun t => plainTerminals.contains t.toLower

/-- The reader of an input that is no terminal. -/
def piped : LineReader := fun prompt h =>
  if showsPrompt h then (h.record .debug "rustyline" "unsupported terminal").print prompt
  else h.record .debug "rustyline" "stdin is not a tty"

/-- The prompt of a line that goes on with a unit. -/
def continuationPrompt : String := ">> "

/-- The prompt, given what has been read of a unit. -/
def promptFor (h : Host) (buffer : String) : String :=
  if buffer.isEmpty then h.prompt else continuationPrompt

/-- Ask for a line, given what has been read of a unit. -/
def beforeLine (reader : LineReader) (h : Host) (buffer : String) : Host :=
  reader (promptFor h buffer) h

/-- A line that says nothing. -/
def isBlankLine (line : String) : Bool :=
  (Text.trim line.toList).isEmpty

section

variable {ε χ : Type} (reader : LineReader) (E : Engine ε χ)

/-- Read lines until the input or a unit ends the loop. `buffer` is what has been read of a
unit. -/
def run : List Line → String → Machine ε → Except ShellError (Option Int) × Machine ε
  | [], buffer, m => (.ok none, m.mapHost (beforeLine reader · buffer))
  | line :: rest, buffer, m =>
      let m := m.mapHost (beforeLine reader · buffer)
      match line with
      | .malformed => (.error (.readline .notText), m)
      | .text line =>
          if buffer.isEmpty && isBlankLine line then run rest buffer m
          else
            let buffer := buffer ++ line ++ "\n"
            if E.needsMoreInput buffer then run rest buffer m
            else match E.execute buffer interactiveOrigin .interactive m with
              | (.error (.exit code), m) => (.ok (some code), m)
              | (_, m) => run rest "" m

/-- Run the loop on all that is left of the standard input. -/
def start (m : Machine ε) : Except ShellError (Option Int) × Machine ε :=
  let (banner, m) := Shell.banner E m
  let lines := readLines m.host.input
  let m := m.mapHost fun h => { h.printLine banner with input := [] }
  run reader E lines "" m

end

end LuaShell.Loop
