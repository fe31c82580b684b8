import LuaShell.SystemShell.Token

/-!
# Commands of system scripts

Tokens put together to commands.  A script is read line by line, since what a line
does may come before a fault in the next one.
-/

namespace LuaShell.SystemShell.Grammar

/-- What is read, and the tokens after it. -/
abbrev Read (α : Type) := List Token → Except (SyntaxFault × Nat) (α × List Token)

/-- The next token. -/
def peek (ts : List Token) : Token :=
  (ts.head?).getD ⟨.finish, 1⟩

/-- Words that mean something else where a command begins. -/
def reserved : List String :=
  ["if", "then", "elif", "else", "fi", "while", "until", "do", "done", "for", "case", "esac",
   "\x7b", "\x7d", "!", "in"]

/-- Words that end a list of commands. -/
def closers : List String :=
  ["then", "elif", "else", "fi", "do", "done", "esac", "\x7d"]

/-- The reserved word that a token is. -/
def keyword? (t : Token) : Option String :=
  match t.kind with
  | .word w => w.plain?.filter reserved.contains
  | _ => none

/-- How a token is shown in messages. -/
def shown (t : Token) : String :=
  match t.kind with
  | .word _ => match keyword? t with
    | some k => s!"\"{k}\""
    | none => "word"
  | .operator text => s!"\"{text}\""
  | .newline => "newline"
  | .redirect .. | .document .. => "redirection"
  | .fault _ | .finish => "end of file"

/-- Why a token cannot stand there. -/
def refuse {α : Type} (expected : Option String) : Read α := fun ts =>
  let t := peek ts
  match t.kind with
  | .fault cause => .error (cause, t.line)
  | _ =>
      let quoted (e : String) : String := if e = "word" then e else s!"\"{e}\""
      .error (.unexpected (shown t) (expected.map quoted), t.line)

/-- Skip ends of lines. -/
def skipLines : List Token → List Token
  | [] => []
  | t :: ts => match t.kind with
    | .newline => skipLines ts
    | _ => t :: ts

/-- Read one reserved word. -/
def expect (word : String) : Read Unit := fun ts =>
  if keyword? (peek ts) = some word then .ok ((), ts.drop 1) else refuse (some word) ts

/-- Whether the script ends here, but for ends of lines. -/
def isOver (ts : List Token) : Bool :=
  match (peek (skipLines ts)).kind with
  | .finish => true
  | _ => false

/-- Whether the next token is this operator. -/
def isOperator (text : String) (ts : List Token) : Bool :=
  match (peek ts).kind with
  | .operator t => t = text
  | _ => false

/-- Which stream an operator changes if none is named, and how. -/
def redirectOf (text : String) : Nat × Redirect :=
  match text with
  | "<" => (0, .read)
  | "<>" => (0, .read)
  | "<&" => (0, .duplicate)
  | ">&" => (1, .duplicate)
  | ">>" => (1, .append)
  | _ => (1, .write)

/-- One redirection, if there is one. -/
def redirection? (ts : List Token) :
    Except (SyntaxFault × Nat) (Option Redirection × List Token) :=
  match ts with
  | t :: rest => match t.kind with
    | .document stream body => .ok (some ⟨stream.getD 0, .here, body⟩, rest)
    | .redirect stream text =>
        let (otherwise, how) := redirectOf text
        match (peek rest).kind with
        | .word w => .ok (some ⟨stream.getD otherwise, how, w⟩, rest.drop 1)
        | _ => refuse none rest
    | _ => .ok (none, ts)
  | [] => .ok (none, ts)

/-- Redirections after a command. -/
def redirections : Nat → Read (List Redirection)
  | 0, ts => .ok ([], ts)
  | n + 1, ts => match redirection? ts with
    | .error e => .error e
    | .ok (none, ts) => .ok ([], ts)
    | .ok (some r, ts) => (redirections n ts).map fun (rs, ts) => (r :: rs, ts)

/-- The name and the value that a word sets. -/
def assignment? (w : Word) : Option (String × Word) :=
  match w with
  | .text cs :: rest =>
      let name := cs.takeWhile Scan.isNameChar
      match cs.head?, cs.drop name.length with
      | some c, '=' :: value =>
          if Scan.isNameStart c then
            some (String.ofList name, (if value.isEmpty then [] else [.text value]) ++ rest)
          else none
      | _, _ => none
  | _ => none

/-- A simple command as it is being read. -/
structure Simple where
  assignments : List (String × Word)
  words : List Word
  redirections : List Redirection

/-- A simple command with its redirections. -/
def Simple.command (s : Simple) (line : Nat) : Command :=
  let c := Command.simple line s.assignments s.words
  if s.redirections.isEmpty then c else .redirected c s.redirections

/-- Whether a text can be the name of a variable. -/
def isName (text : String) : Bool :=
  match text.toList with
  | c :: cs => Scan.isNameStart c && cs.all Scan.isNameChar
  | [] => false

/-- The parts of a simple command. -/
def simple : Nat → Simple → Read Simple
  | 0, s, ts => .ok (s, ts)
  | n + 1, s, ts => match redirection? ts with
    | .error e => .error e
    | .ok (some r, ts) => simple n { s with redirections := s.redirections ++ [r] } ts
    | .ok (none, ts) => match (peek ts).kind with
      | .word w =>
          match assignment? w with
          | some a =>
              if s.words.isEmpty then
                simple n { s with assignments := s.assignments ++ [a] } (ts.drop 1)
              else simple n { s with words := s.words ++ [w] } (ts.drop 1)
          | none => simple n { s with words := s.words ++ [w] } (ts.drop 1)
      | _ => .ok (s, ts)

/-- Words up to the next token that is none. -/
def wordList : List Token → List Word × List Token
  | [] => ([], [])
  | t :: ts => match t.kind with
    | .word w =>
        let (ws, rest) := wordList ts
        (w :: ws, rest)
    | _ => ([], t :: ts)

/-- The patterns before the body of an arm, with bars between them. -/
def patterns : Nat → Read (List Word)
  | 0, ts => .ok ([], ts)
  | n + 1, ts => match (peek ts).kind with
    | .word w =>
        if isOperator "|" (ts.drop 1) then
          (patterns n (ts.drop 2)).map fun (ws, ts) => (w :: ws, ts)
        else if isOperator ")" (ts.drop 1) then .ok ([w], ts.drop 2)
        else refuse (some ")") (ts.drop 1)
    | _ => refuse (some ")") (ts.drop 1)

/-- Whether a list of commands ends here. -/
def endsList (ts : List Token) : Bool :=
  match (peek ts).kind with
  | .finish => true
  | .operator t => t = ")" || t = ";;"
  | .word _ => (keyword? (peek ts)).any closers.contains
  | _ => false

/-- Whether a word and two parentheses begin a function here. -/
def functionName? (ts : List Token) : Option String :=
  match (peek ts).kind with
  | .word w =>
      if isOperator "(" (ts.drop 1) && isOperator ")" (ts.drop 2) then w.plain? else none
  | _ => none

/-- A command after others, if there are some. -/
def following (before : Option Command) (c : Command) : Command :=
  match before with
  | none => c
  | some b => .sequence b c

/-- A pipeline; that of one part is the part itself. -/
def ofParts (isNegated : Bool) : List Command → Command
  | [c] => if isNegated then .pipeline true [c] else c
  | cs => .pipeline isNegated cs

mutual

/-- One command without joints. -/
def command : Nat → Read Command
  | 0, ts => refuse none ts
  | n + 1, ts =>
      let withRedirections (r : Except (SyntaxFault × Nat) (Command × List Token)) :
          Except (SyntaxFault × Nat) (Command × List Token) :=
        match r with
        | .error e => .error e
        | .ok (c, ts) => (redirections ts.length ts).map fun (rs, ts) =>
            (if rs.isEmpty then c else .redirected c rs, ts)
      if isOperator "(" ts then
        withRedirections <|
          if isOver (ts.drop 1) then refuse (some ")") (skipLines (ts.drop 1))
          else match list n (ts.drop 1) with
            | .error e => .error e
            | .ok (body, ts) =>
                if isOperator ")" ts then .ok (.subshell body, ts.drop 1)
                else refuse (some ")") ts
      else match functionName? ts with
        | some name => (command n (skipLines (ts.drop 3))).map fun (body, ts) =>
            (.function name body, ts)
        | none => match keyword? (peek ts) with
          | some "\x7b" => withRedirections (closed n "\x7d" (ts.drop 1))
          | some "if" => withRedirections (conditional n (ts.drop 1))
          | some "while" => withRedirections (loop n false (ts.drop 1))
          | some "until" => withRedirections (loop n true (ts.drop 1))
          | some "for" => withRedirections (forEach n (ts.drop 1))
          | some "case" => withRedirections (choice n (ts.drop 1))
          | some "in" | none => match simple ts.length ⟨[], [], []⟩ ts with
            | .error e => .error e
            | .ok (s, rest) =>
                if s.words.length = 1 && s.assignments.isEmpty && s.redirections.isEmpty &&
                    isOperator "(" rest then refuse (some ")") (rest.drop 1)
                else if s.words.isEmpty && s.assignments.isEmpty && s.redirections.isEmpty then
                  refuse none ts
                else .ok (s.command (peek ts).line, rest)
          | some _ => refuse none ts

/-- Commands up to a word that closes them. -/
def closed (n : Nat) (word : String) : Read Command := fun ts =>
  match n with
  | 0 => refuse none ts
  | n + 1 =>
      if isOver ts then refuse (some word) (skipLines ts)
      else match list n ts with
        | .error e => .error e
        | .ok (body, ts) => (expect word ts).map fun (_, ts) => (body, ts)

/-- What follows `if` or `elif`. -/
def conditional : Nat → Read Command
  | 0, ts => refuse none ts
  | n + 1, ts => match closed n "then" ts with
    | .error e => .error e
    | .ok (condition, ts) => match if isOver ts then refuse (some "fi") (skipLines ts) else list n ts with
      | .error e => .error e
      | .ok (body, ts) => match keyword? (peek ts) with
        | some "elif" => (conditional n (ts.drop 1)).map fun (other, ts) =>
            (.conditional condition body (some other), ts)
        | some "else" => (closed n "fi" (ts.drop 1)).map fun (other, ts) =>
            (.conditional condition body (some other), ts)
        | _ => (expect "fi" ts).map fun (_, ts) => (.conditional condition body none, ts)

/-- What follows `while` or `until`. -/
def loop (n : Nat) (isUntil : Bool) : Read Command := fun ts =>
  match n with
  | 0 => refuse none ts
  | n + 1 => match closed n "do" ts with
    | .error e => .error e
    | .ok (condition, ts) => (closed n "done" ts).map fun (body, ts) =>
        (.loop isUntil condition body, ts)

/-- What follows `for`. -/
def forEach : Nat → Read Command
  | 0, ts => refuse none ts
  | n + 1, ts => match (peek ts).kind with
    | .word w => match w.plain?.filter isName with
      | none => .error (.badLoopVariable, (peek ts).line)
      | some name =>
          let ts := skipLines (ts.drop 1)
          let (words, ts) := if keyword? (peek ts) = some "in" then
              let (ws, ts) := wordList (ts.drop 1)
              (some ws, ts)
            else (none, ts)
          let isSeparated := isOperator ";" ts || (match (peek ts).kind with
            | .newline => true
            | _ => false)
          let ts := if isOperator ";" ts then ts.drop 1 else ts
          match if words.isSome && !isSeparated then refuse none ts
            else expect "do" (skipLines ts) with
          | .error e => .error e
          | .ok (_, ts) => (closed n "done" ts).map fun (body, ts) =>
              (.forEach name words body, ts)
    | .fault cause => .error (cause, (peek ts).line)
    | _ => .error (.badLoopVariable, (peek ts).line)

/-- What follows `case`. -/
def choice : Nat → Read Command
  | 0, ts => refuse none ts
  | n + 1, ts => match (peek ts).kind with
    | .word w => match expect "in" (skipLines (ts.drop 1)) with
      | .error e => .error e
      | .ok (_, ts) => (arms n ts).map fun (as, ts) => (.choice w as, ts)
    | _ => refuse (some "word") ts

/-- The arms of a choice up to its end. -/
def arms : Nat → Read (List (List Word × Command))
  | 0, ts => refuse none ts
  | n + 1, ts =>
      let ts := skipLines ts
      if keyword? (peek ts) = some "esac" then .ok ([], ts.drop 1)
      else
        let ts := if isOperator "(" ts then ts.drop 1 else ts
        match patterns ts.length ts with
        | .error e => .error e
        | .ok (ps, ts) =>
            let ts := skipLines ts
            match if endsList ts then .ok (default, ts) else list n ts with
            | .error e => .error e
            | .ok (body, ts) =>
                let ts := skipLines ts
                if isOperator ";;" ts then
                  (arms n (ts.drop 1)).map fun (as, ts) => ((ps, body) :: as, ts)
                else if keyword? (peek ts) = some "esac" then .ok ([(ps, body)], ts.drop 1)
                else refuse (some ";;") ts

/-- Commands with bars between them. -/
def pipeline : Nat → Read (List Command)
  | 0, ts => refuse none ts
  | n + 1, ts => match command n ts with
    | .error e => .error e
    | .ok (c, ts) =>
        if isOperator "|" ts then
          (pipeline n (skipLines (ts.drop 1))).map fun (cs, ts) => (c :: cs, ts)
        else .ok ([c], ts)

/-- A pipeline, perhaps negated. -/
def negatable (n : Nat) : Read Command := fun ts =>
  match n with
  | 0 => refuse none ts
  | n + 1 =>
      let isNegated := keyword? (peek ts) = some "!"
      (pipeline n (if isNegated then ts.drop 1 else ts)).map fun (cs, ts) =>
        (ofParts isNegated cs, ts)

/-- What follows a pipeline that another one depends on. -/
def joined : Nat → Command → Read Command
  | 0, _, ts => refuse none ts
  | n + 1, c, ts =>
      if isOperator "&&" ts then match negatable n (skipLines (ts.drop 1)) with
        | .error e => .error e
        | .ok (d, ts) => joined n (.both c d) ts
      else if isOperator "||" ts then match negatable n (skipLines (ts.drop 1)) with
        | .error e => .error e
        | .ok (d, ts) => joined n (.either c d) ts
      else .ok (c, ts)

/-- Pipelines that depend on each other. -/
def chain (n : Nat) : Read Command := fun ts =>
  match n with
  | 0 => refuse none ts
  | n + 1 => match negatable n ts with
    | .error e => .error e
    | .ok (c, ts) => joined n c ts

/-- Commands one after the other up to what ends a list. -/
def list : Nat → Read Command
  | 0, ts => refuse none ts
  | n + 1, ts =>
      let ts := skipLines ts
      if endsList ts then refuse none ts
      else match chain n ts with
        | .error e => .error e
        | .ok (c, ts) => rest n none c ts

/-- What follows a command in a list, which may have others before it. -/
def rest : Nat → Option Command → Command → Read Command
  | 0, _, _, ts => refuse none ts
  | n + 1, before, c, ts =>
      let c := following before (if isOperator "&" ts then .background c else c)
      let separated := isOperator ";" ts || isOperator "&" ts
      let after := skipLines (if separated then ts.drop 1 else ts)
      let isSeparated := separated || (match (peek ts).kind with
        | .newline => true
        | _ => false)
      if endsList after || !isSeparated then .ok (c, after)
      else match chain n after with
        | .error e => .error e
        | .ok (d, ts) => rest n (some c) d ts

end

/-- How deep the reading of some tokens can be nested. -/
def depthFor (ts : List Token) : Nat :=
  12 * ts.length + 12

/-- The commands of one line after the first ones, the last of which stands apart. -/
def lineRest : Nat → Option Command → Command → Read Command
  | 0, before, c, ts => .ok (following before c, ts)
  | n + 1, before, c, ts =>
      let c := following before (if isOperator "&" ts then .background c else c)
      if isOperator ";" ts || isOperator "&" ts then
        match (peek (ts.drop 1)).kind with
        | .newline => .ok (c, ts.drop 2)
        | .finish => .ok (c, ts.drop 1)
        | _ => match chain (depthFor ts) (ts.drop 1) with
          | .error e => .error e
          | .ok (d, ts) => lineRest n (some c) d ts
      else match (peek ts).kind with
        | .newline => .ok (c, ts.drop 1)
        | .finish => .ok (c, ts)
        | _ => refuse none ts

/-- The commands of the next line that has some; none at the end. -/
def line (ts : List Token) : Except (SyntaxFault × Nat) (Option Command × List Token) :=
  let ts := skipLines ts
  match (peek ts).kind with
  | .finish => .ok (none, [])
  | _ => match chain (depthFor ts) ts with
    | .error e => .error e
    | .ok (c, ts) => (lineRest ts.length none c ts).map fun (c, ts) => (some c, ts)

end LuaShell.SystemShell.Grammar
