import LuaShell.SystemShell.Syntax

/-!
# Tokens of system scripts

Words, operators and ends of lines.  The text of a document that stands in the script
is taken out of it where the document is asked for.
-/

namespace LuaShell.SystemShell

/-- What a token is. -/
inductive TokenKind where
  | word (w : Word)
  /-- An operator of control, such as `;` or `&&`. -/
  | operator (text : String)
  | newline
  /-- The beginning of a redirection; its target follows unless it is a document. -/
  | redirect (stream : Option Nat) (text : String)
  | document (stream : Option Nat) (body : Word)
  | fault (cause : SyntaxFault)
  | finish

/-- A token and the line on which it begins. -/
structure Token where
  kind : TokenKind
  line : Nat

namespace Scan

/-- A letter, or a line below. -/
def isNameStart (c : Char) : Bool := c.isAlpha || c = '_'

def isNameChar (c : Char) : Bool := c.isAlphanum || c = '_'

/-- Parameters whose names are one sign. -/
def signs : List Char := "@*#?-$!".toList

/-- Text up to the parenthesis or brace that closes it, and what follows; quotes hide what is
in them. `depth` counts those that have been opened since. -/
def enclosed (opening closing : Char) : Nat → List Char → Option (List Char × List Char)
  | _, [] => none
  | depth, '\\' :: c :: cs => (enclosed opening closing depth cs).map fun r => ('\\' :: c :: r.1, r.2)
  | depth, c :: cs =>
      if c = '\'' then skipQuoted depth [c] cs
      else if c = closing then
        match depth with
        | 0 => some ([], cs)
        | depth + 1 => (enclosed opening closing depth cs).map fun r => (c :: r.1, r.2)
      else if c = opening then
        (enclosed opening closing (depth + 1) cs).map fun r => (c :: r.1, r.2)
      else (enclosed opening closing depth cs).map fun r => (c :: r.1, r.2)
where
  /-- Text in single quotes, of which a part has been read, last character first. -/
  skipQuoted (depth : Nat) (read : List Char) : List Char → Option (List Char × List Char)
    | [] => none
    | '\'' :: cs =>
        (enclosed opening closing depth cs).map fun r => (read.reverse ++ '\'' :: r.1, r.2)
    | c :: cs => skipQuoted depth (c :: read) cs

/-- Text up to a backquote, without the backslashes that guard characters there. -/
def backquoted : List Char → Option (List Char × List Char)
  | [] => none
  | '`' :: cs => some ([], cs)
  | '\\' :: c :: cs =>
      let guarded := if "`$\\".toList.contains c then [c] else ['\\', c]
      (backquoted cs).map fun r => (guarded ++ r.1, r.2)
  | c :: cs => (backquoted cs).map fun r => (c :: r.1, r.2)

/-- The name at the beginning of a text, and the rest. -/
def name (cs : List Char) : String × List Char :=
  match cs with
  | c :: rest =>
      if isNameStart c then
        let more := rest.takeWhile isNameChar
        (String.ofList (c :: more), rest.drop more.length)
      else if c.isDigit then
        let more := rest.takeWhile Char.isDigit
        (String.ofList (c :: more), rest.drop more.length)
      else if signs.contains c then (String.singleton c, rest)
      else ("", cs)
  | [] => ("", [])

/-- What stands between braces after a dollar sign. -/
def braced (cs : List Char) (isQuoted : Bool) : Except SyntaxFault Piece :=
  match cs with
  | '#' :: rest =>
      let (n, tail) := name rest
      if n ≠ "" && tail.isEmpty then .ok (.parameter n ['#'] isQuoted)
      else .ok (.parameter "#" rest isQuoted)
  | cs => match name cs with
    | ("", _) => .ok (.parameter "" [] isQuoted)
    | (n, action) => .ok (.parameter n action isQuoted)

/-- What begins with a dollar sign, which has been read, and what follows it. -/
def dollar (isQuoted : Bool) (cs : List Char) : Except SyntaxFault (Piece × List Char) :=
  match cs with
  | '(' :: '(' :: rest => match enclosed '(' ')' 1 rest with
    | some (body, rest) => .ok (.arithmetic body.dropLast isQuoted, rest)
    | none => .error (.missing "))")
  | '(' :: rest => match enclosed '(' ')' 0 rest with
    | some (body, rest) => .ok (.output body isQuoted, rest)
    | none => .error (.endOfFile "\")\"")
  | '\x7b' :: rest => match enclosed '\x7b' '\x7d' 0 rest with
    | some (body, rest) => (braced body isQuoted).map fun p => (p, rest)
    | none => .error (.missing "\x7d")
  | c :: rest =>
      if isNameStart c then
        let (n, rest) := name (c :: rest)
        .ok (.parameter n [] isQuoted, rest)
      else if c.isDigit || signs.contains c then
        .ok (.parameter (String.singleton c) [] isQuoted, rest)
      else .ok (if isQuoted then .quoted ['$'] else .text ['$'], cs)
  | [] => .ok (if isQuoted then .quoted ['$'] else .text ['$'], [])

/-- Put a character at the end of a word. -/
def push (w : Word) (c : Char) (isQuoted : Bool) : Word :=
  match w.getLast?, isQuoted with
  | some (.text cs), false => w.dropLast ++ [.text (cs ++ [c])]
  | some (.quoted cs), true => w.dropLast ++ [.quoted (cs ++ [c])]
  | _, true => w ++ [.quoted [c]]
  | _, false => w ++ [.text [c]]

/-- The rest of a text in double quotes, after which something follows. -/
def doubleQuoted : Nat → Word → List Char → Except SyntaxFault (Word × List Char)
  | 0, _, _ | _, _, [] => .error .unterminatedQuote
  | n + 1, w, c :: cs =>
      if c = '"' then .ok (w, cs)
      else if c = '\\' then match cs with
        | '\n' :: cs => doubleQuoted n w cs
        | d :: cs =>
            if "\"\\$`".toList.contains d then doubleQuoted n (push w d true) cs
            else doubleQuoted n (push (push w '\\' true) d true) cs
        | [] => .error .unterminatedQuote
      else if c = '$' then match dollar true cs with
        | .error e => .error e
        | .ok (p, cs) => doubleQuoted n (w ++ [p]) cs
      else if c = '`' then match backquoted cs with
        | some (source, cs) => doubleQuoted n (w ++ [.output source true]) cs
        | none => .error .openBackquote
      else doubleQuoted n (push w c true) cs

/-- The pieces of a document, in which all is as if it were quoted. -/
def documentBody : Nat → Word → List Char → Word
  | 0, w, _ | _, w, [] => w
  | n + 1, w, c :: cs =>
      if c = '\\' then match cs with
        | '\n' :: cs => documentBody n w cs
        | d :: cs =>
            if "\\$`".toList.contains d then documentBody n (push w d true) cs
            else documentBody n (push (push w '\\' true) d true) cs
        | [] => push w '\\' true
      else if c = '$' then match dollar true cs with
        | .ok (p, cs) => documentBody n (w ++ [p]) cs
        | .error _ => documentBody n (push w '$' true) cs
      else if c = '`' then match backquoted cs with
        | some (source, cs) => documentBody n (w ++ [.output source true]) cs
        | none => documentBody n (push w c true) cs
      else documentBody n (push w c true) cs

/-- Characters that end a word. -/
def isWordEnd (c : Char) : Bool :=
  " \t\n;&|<>()".toList.contains c

/-- A word whose beginning has been read, up to a character that ends it. -/
def wordUntil (ends : Char → Bool) : Nat → Word → List Char →
    Except SyntaxFault (Word × List Char)
  | 0, w, cs => .ok (w, cs)
  | _, w, [] => .ok (w, [])
  | n + 1, w, c :: cs =>
      if ends c then .ok (w, c :: cs)
      else if c = '\'' then
        let body := cs.takeWhile (· ≠ '\'')
        if body.length = cs.length then .error .unterminatedQuote
        else wordUntil ends n (w ++ [.quoted body]) (cs.drop (body.length + 1))
      else if c = '"' then match doubleQuoted n [] cs with
        | .error e => .error e
        | .ok (body, cs) => wordUntil ends n (w ++ (if body.isEmpty then [.quoted []] else body)) cs
      else if c = '\\' then match cs with
        | '\n' :: cs => wordUntil ends n w cs
        | d :: cs => wordUntil ends n (w ++ [.quoted [d]]) cs
        | [] => .ok (push w '\\' false, [])
      else if c = '$' then match dollar false cs with
        | .error e => .error e
        | .ok (p, cs) => wordUntil ends n (w ++ [p]) cs
      else if c = '`' then match backquoted cs with
        | some (source, cs) => wordUntil ends n (w ++ [.output source false]) cs
        | none => .error .openBackquote
      else wordUntil ends n (push w c false) cs

/-- A word whose beginning has been read. -/
def word (n : Nat) (w : Word) (cs : List Char) : Except SyntaxFault (Word × List Char) :=
  wordUntil isWordEnd n w cs

/-- Read a word from a text that holds nothing else, in which blanks end nothing. -/
def wholeWord (cs : List Char) : Word :=
  match wordUntil (fun _ => false) (cs.length + 1) [] cs with
  | .ok (w, _) => w
  | .error _ => [.quoted cs]

/-- The text that a word would have without any quotes. -/
def bare (w : Word) : List Char :=
  w.flatMap fun
    | .text cs | .quoted cs => cs
    | _ => []

/-- Whether a part of a word is quoted. -/
def hasQuotes (w : Word) : Bool :=
  w.any fun
    | .quoted _ => true
    | _ => false

/-- The lines of a document up to the one that ends it, and what follows that. -/
def documentLines (delimiter : List Char) (dropsTabs : Bool) :
    Nat → List Char → List Char × List Char
  | 0, cs => ([], cs)
  | _, [] => ([], [])
  | n + 1, cs =>
      let line := cs.takeWhile (· ≠ '\n')
      let rest := cs.drop (line.length + 1)
      let hasEnd := line.length < cs.length
      let line := if dropsTabs then line.dropWhile (· = '\t') else line
      if line = delimiter then ([], rest)
      else
        let (body, rest) := documentLines delimiter dropsTabs n rest
        if hasEnd then (line ++ '\n' :: body, rest) else (line, rest)

/-- A document whose beginning has been read: its body, and the rest of the script without
it. -/
def document (dropsTabs : Bool) (cs : List Char) :
    Except SyntaxFault (Word × List Char) :=
  let cs := cs.dropWhile (· = ' ')
  match cs.head? with
  | none => .error (.unexpected "end of file" none)
  | some '\n' => .error (.unexpected "newline" none)
  | some '<' | some '>' => .error (.unexpected "redirection" none)
  | some _ => match word (cs.length + 1) [] cs with
  | .error e => .error e
  | .ok (delimiter, cs) =>
      let line := cs.takeWhile (· ≠ '\n')
      let (body, rest) :=
        documentLines (bare delimiter) dropsTabs cs.length (cs.drop (line.length + 1))
      let body := if hasQuotes delimiter then [.quoted body]
        else documentBody (body.length + 1) [] body
      .ok (body, line ++ '\n' :: rest)

/-- Operators, longer ones first. -/
def operators : List String :=
  ["&&", "||", ";;", ";", "&", "|", "(", ")"]

def redirects : List String :=
  ["<<-", "<<", ">>", "<&", ">&", "<>", ">|", "<", ">"]

/-- The first of some texts with which another begins, and what follows it. -/
def leading? (texts : List String) (cs : List Char) : Option (String × List Char) :=
  texts.findSome? fun t =>
    if t.toList.isPrefixOf cs then some (t, cs.drop t.length) else none

/-- A number right before a redirection. -/
def streamNumber? (cs : List Char) : Option (Nat × List Char) :=
  let digits := cs.takeWhile Char.isDigit
  let rest := cs.drop digits.length
  match digits, rest with
  | [d], '<' :: _ | [d], '>' :: _ => some (d.toNat - 48, rest)
  | _, _ => none

/-- How many lines end in what was read. -/
def linesIn (before after : List Char) : Nat :=
  ((before.take (before.length - after.length)).filter (· = '\n')).length

/-- The tokens of a script. After a fault there are no more. -/
def tokens : Nat → Nat → List Char → List Token
  | 0, line, _ | _, line, [] => [⟨.finish, line⟩]
  | n + 1, line, c :: cs =>
      if c = ' ' || c = '\t' then tokens n line cs
      else if c = '\\' && cs.head? = some '\n' then tokens n (line + 1) (cs.drop 1)
      else if c = '\n' then ⟨.newline, line⟩ :: tokens n (line + 1) cs
      else if c = '#' then tokens n line (cs.dropWhile (· ≠ '\n'))
      else
        let (stream, after) := match streamNumber? (c :: cs) with
          | some (k, rest) => (some k, rest)
          | none => (none, c :: cs)
        match leading? redirects after with
        | some (op, rest) =>
            if op = "<<" || op = "<<-" then match document (op = "<<-") rest with
              | .error e => [⟨.fault e, line⟩]
              | .ok (body, rest) => ⟨.document stream body, line⟩ :: tokens n line rest
            else ⟨.redirect stream op, line⟩ :: tokens n line rest
        | none => match leading? operators (c :: cs) with
          | some (op, rest) => ⟨.operator op, line⟩ :: tokens n line rest
          | none => match word (cs.length + 2) [] (c :: cs) with
            | .error e => [⟨.fault e, line⟩]
            | .ok (w, rest) =>
                ⟨.word w, line⟩ :: tokens n (line + linesIn (c :: cs) rest) rest

/-- The tokens of a text. -/
def ofText (cs : List Char) : List Token :=
  tokens (cs.length + 1) 1 cs

end Scan

end LuaShell.SystemShell
