import LuaShell.Regex.Meaning
import LuaShell.SystemShell.Utility

/-!
# Searching lines

The program that shows the lines of files which match a pattern.  In a basic pattern
parentheses, braces, bars and signs of repetition mean something only after a backslash;
in an extended one they do so without.
-/

namespace LuaShell.SystemShell.Search

/-- A text in which nothing means anything. -/
def literal (cs : List Char) : List Char :=
  cs.flatMap fun c => if Regex.Parse.isMeta c then ['\\', c] else [c]

/-- What stands in brackets up to the end of the class, where backslashes mean nothing, and what
follows. -/
def bracketBody : List Char → List Char × List Char
  | [] => ([], [])
  | '[' :: ':' :: rest =>
      let name := rest.takeWhile (· ≠ ':')
      ('[' :: ':' :: name ++ [':', ']'], rest.drop (name.length + 2))
  | ']' :: rest => ([']'], rest)
  | c :: rest => (if "\\[&~".toList.contains c then ['\\', c] else [c], rest)

/-- A class in brackets; the opening bracket has been read. -/
def bracket : Nat → List Char → List Char × List Char
  | 0, cs => ([], cs)
  | _, [] => ([], [])
  | _ + 1, ']' :: rest => ([']'], rest)
  | n + 1, cs =>
      let (one, rest) := bracketBody cs
      let (more, rest) := bracket n rest
      (one ++ more, rest)

/-- The beginning of a class in brackets, where a closing bracket is one of its characters. -/
def bracketHead (n : Nat) (cs : List Char) : List Char × List Char :=
  let (caret, cs) := match cs with
    | '^' :: rest => (['^'], rest)
    | cs => ([], cs)
  let (first, cs) := match cs with
    | ']' :: rest => (['\\', ']'], rest)
    | cs => ([], cs)
  let (body, rest) := bracket n cs
  ('[' :: caret ++ first ++ body, rest)

/-- A basic or an extended pattern as a pattern of this library. `isFront` says that nothing
stands before that could be repeated. -/
def asRegex (isExtended : Bool) : Nat → Bool → List Char → List Char
  | 0, _, _ | _, _, [] => []
  | n + 1, _, '[' :: cs =>
      let (cls, rest) := bracketHead n cs
      cls ++ asRegex isExtended n false rest
  | n + 1, _, '\\' :: c :: cs =>
      let isOperator := "(){}|+?".toList.contains c
      if isOperator && !isExtended then c :: asRegex isExtended n (c = '(' || c = '|') cs
      else if "<>bBwWsS".toList.contains c || Regex.Parse.isMeta c then
        '\\' :: c :: asRegex isExtended n false cs
      else c :: asRegex isExtended n false cs
  | n + 1, isFront, c :: cs =>
      let isOperator := "(){}|+?".toList.contains c
      if isOperator && !isExtended then '\\' :: c :: asRegex isExtended n false cs
      else if c = '*' && isFront then '\\' :: c :: asRegex isExtended n false cs
      else if c = '^' && !isExtended && !isFront then '\\' :: c :: asRegex isExtended n false cs
      else if c = '$' && !isExtended && !cs.isEmpty && !("\\)".toList.isPrefixOf cs) then
        '\\' :: c :: asRegex isExtended n false cs
      else if c = '#' || c = '&' || c = '-' || c = '~' then
        '\\' :: c :: asRegex isExtended n false cs
      else c :: asRegex isExtended n (c = '^' || (isExtended && (c = '(' || c = '|'))) cs

/-- The pattern of `grep` with some options. -/
def patternOf (letters : List Char) (pattern : String) : String :=
  let cs := pattern.toList
  let one (cs : List Char) : String :=
    String.ofList (if letters.contains 'F' then literal cs
      else asRegex (letters.contains 'E') (2 * cs.length + 2) true cs)
  let body := "|".intercalate ((Regex.Fault.linesOf cs).map one)
  let body := if letters.contains 'w' then "\\b(?:" ++ body ++ ")\\b"
    else if letters.contains 'x' then "^(?:" ++ body ++ ")$"
    else body
  if letters.contains 'i' then "(?i)" ++ body else body

/-- The matching lines of a text, with their numbers. -/
def matching (m : Regex.Matcher) (isInverted : Bool) (bytes : List UInt8) :
    List (List UInt8 × Nat) :=
  (Utility.lines bytes).zipIdx.filter fun (l, _) =>
    m.isIn (String.ofList (Text.decodeLossy l)) != isInverted

/-- What one file of `grep` comes to. -/
def file (letters : List Char) (m : Regex.Matcher) (title : Option String) (name : String)
    (bytes : List UInt8) (r : Run) : Run :=
  let found := matching m (letters.contains 'v') bytes
  let before := (title.map (· ++ ":")).getD ""
  let shown := if name = "-" then "(standard input)" else name
  let r :=
    if letters.contains 'q' then r
    else if letters.contains 'l' then
      if found.isEmpty then r else r.say (shown ++ "\n")
    else if letters.contains 'c' then r.say s!"{before}{found.length}\n"
    else found.foldl (fun r (l, i) =>
      let number := if letters.contains 'n' then s!"{i + 1}:" else ""
      Utility.put (Text.toBytes (before ++ number) ++ l ++ [10]) r) r
  if found.isEmpty then r else r.done 0

/-- `grep`, with more letters as if they had been given. -/
def grepWith (more : List Char) : Utility := fun args r =>
  let (letters, args) := Utility.options args
  let letters := more ++ letters
  match args with
  | [] => r.fail 2 "Usage: grep [OPTION]... PATTERNS [FILE]...\nTry 'grep --help' for more information."
  | pattern :: files => match Regex.Matcher.ofString (patternOf letters pattern) with
    | .error _ => r.fail 2 "grep: Unmatched [, [^, [:, [., or [="
    | .ok m =>
        let isTitled := (1 < files.length || letters.contains 'H') && !letters.contains 'h'
        let (r, isBad) := (if files.isEmpty then ["-"] else files).foldl (fun (r, isBad) f =>
          match Utility.contents "grep" f r with
          | (some bytes, r) =>
              (file letters m (if isTitled then some f else none) f bytes r, isBad)
          | (none, r) => (r.done (if r.status = 0 then 0 else 1), true)) (r.done 1, false)
        if isBad then r.done 2 else r

/-- The programs and their names. -/
def all : List (String × Utility) :=
  [("grep", grepWith []), ("egrep", grepWith ['E']), ("fgrep", grepWith ['F'])]

end LuaShell.SystemShell.Search
