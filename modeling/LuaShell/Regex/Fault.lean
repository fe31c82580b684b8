/-!
# Faults of patterns

Why a text is no pattern, and where.  The report shows the pattern with carets under
the places that the fault is about.
-/

namespace LuaShell.Regex

/-- A place in a pattern. Lines and columns count from one. -/
structure Place where
  line : Nat
  column : Nat
  deriving DecidableEq

/-- A part of a pattern. -/
structure Span where
  start : Place
  stop : Place
  deriving DecidableEq

/-- Why a text is no pattern. -/
inductive Cause where
  | classEscape
  | classRange
  | classRangeBoundary
  | classUnclosed
  | decimalEmpty
  | decimalTooLarge
  | hexEmpty
  | hexNoCharacter
  | hexDigit
  | escapeUnfinished
  | escapeUnknown
  | negationDangling
  | flagRepeated
  | negationRepeated
  | flagUnfinished
  | flagUnknown
  | nameRepeated
  | nameEmpty
  | nameCharacter
  | nameUnclosed
  | groupUnclosed
  | groupUnopened
  | countRange
  | countEmpty
  | countUnclosed
  | nothingToRepeat
  | boundaryUnclosed
  | boundaryUnknown
  | boundaryUnfinished
  | propertyName
  | backreference
  | lookaround
  | unicodeForbidden
  | invalidText
  | propertyUnknown
  | propertyValueUnknown
  deriving DecidableEq

/-- The wording of a cause. -/
def Cause.message : Cause → String
  | .classEscape => "invalid escape sequence found in character class"
  | .classRange => "invalid character class range, the start must be <= the end"
  | .classRangeBoundary => "invalid range boundary, must be a literal"
  | .classUnclosed => "unclosed character class"
  | .decimalEmpty => "decimal literal empty"
  | .decimalTooLarge => "decimal literal invalid"
  | .hexEmpty => "hexadecimal literal empty"
  | .hexNoCharacter => "hexadecimal literal is not a Unicode scalar value"
  | .hexDigit => "invalid hexadecimal digit"
  | .escapeUnfinished => "incomplete escape sequence, reached end of pattern prematurely"
  | .escapeUnknown => "unrecognized escape sequence"
  | .negationDangling => "dangling flag negation operator"
  | .flagRepeated => "duplicate flag"
  | .negationRepeated => "flag negation operator repeated"
  | .flagUnfinished => "expected flag but got end of regex"
  | .flagUnknown => "unrecognized flag"
  | .nameRepeated => "duplicate capture group name"
  | .nameEmpty => "empty capture group name"
  | .nameCharacter => "invalid capture group character"
  | .nameUnclosed => "unclosed capture group name"
  | .groupUnclosed => "unclosed group"
  | .groupUnopened => "unopened group"
  | .countRange => "invalid repetition count range, the start must be <= the end"
  | .countEmpty => "repetition quantifier expects a valid decimal"
  | .countUnclosed => "unclosed counted repetition"
  | .nothingToRepeat => "repetition operator missing expression"
  | .boundaryUnclosed =>
      "special word boundary assertion is either unclosed or contains an invalid character"
  | .boundaryUnknown =>
      "unrecognized special word boundary assertion, valid choices are: start, end, " ++
        "start-half or end-half"
  | .boundaryUnfinished =>
      "found either the beginning of a special word boundary or a bounded repetition on a \\b " ++
        "with an opening brace, but no closing brace"
  | .propertyName => "invalid Unicode character class"
  | .backreference => "backreferences are not supported"
  | .lookaround => "look-around, including look-ahead and look-behind, is not supported"
  | .unicodeForbidden => "Unicode not allowed here"
  | .invalidText => "pattern can match invalid UTF-8"
  | .propertyUnknown => "Unicode property not found"
  | .propertyValueUnknown => "Unicode property value not found"

/-- A cause, where it was met, and where what it conflicts with is. -/
structure Fault where
  cause : Cause
  span : Span
  other : Option Span

namespace Fault

/-- The lines of a text; a line end at the end begins no line. -/
def linesOf (text : List Char) : List (List Char) :=
  let lines := go [] text
  if lines.getLast? = some [] then lines.dropLast else lines
where
  go : List Char → List Char → List (List Char)
    | line, [] => [line.reverse]
    | line, '\r' :: '\n' :: rest => line.reverse :: go [] rest
    | line, '\n' :: rest => line.reverse :: go [] rest
    | line, c :: rest => go (c :: line) rest

/-- Whether a span is in one line. -/
def isInLine (s : Span) : Bool := s.start.line = s.stop.line

/-- Whether a span begins before another one. -/
def isBefore (s t : Span) : Bool :=
  s.start.column < t.start.column ||
    (s.start.column = t.start.column && s.stop.column ≤ t.stop.column)

/-- The spans that a fault is about, those further to the left first. -/
def spans (f : Fault) : List Span :=
  match f.other with
  | none => [f.span]
  | some other => if isBefore f.span other then [f.span, other] else [other, f.span]

/-- Carets under spans of a line, from a column on. -/
def carets : Nat → List Span → List Char
  | _, [] => []
  | column, s :: rest =>
      let gap := s.start.column - column
      let width := max 1 (s.stop.column - s.start.column)
      List.replicate gap ' ' ++ List.replicate width '^' ++ carets (column + gap + width) rest

/-- What stands before lines, so that numbers of lines have the same width. -/
def margin (width number : Nat) : List Char :=
  if width = 0 then List.replicate 4 ' '
  else
    let digits := (toString number).toList
    List.replicate (width - digits.length) ' ' ++ digits ++ [':', ' ']

/-- A line of the pattern, with carets under it. -/
def shownLine (f : Fault) (width number : Nat) (line : List Char) : List Char :=
  let spans := f.spans.filter fun s => isInLine s && s.start.line = number
  let blank := List.replicate (if width = 0 then 4 else width + 2) ' '
  margin width number ++ line ++ ['\n'] ++
    if spans.isEmpty then [] else blank ++ carets 1 spans ++ ['\n']

/-- What is said about a span of several lines. -/
def shownSpan (s : Span) : String :=
  let last := s.stop.column - 1
  s!"on line {s.start.line} (column {s.start.column}) through line {s.stop.line} (column {last})"

/-- The report of a fault of a pattern. -/
def report (f : Fault) (pattern : String) : String :=
  let lines := linesOf pattern.toList
  let isLong := pattern.toList.contains '\n'
  let count := lines.length + (if pattern.toList.getLast? = some '\n' then 1 else 0)
  let width := if count ≤ 1 then 0 else (toString count).length
  let shown := String.ofList ((lines.zipIdx.map fun (line, i) => f.shownLine width (i + 1) line).flatten)
  let divider := if isLong then String.ofList (List.replicate 79 '~') ++ "\n" else ""
  let notes := (f.spans.filter fun s => !isInLine s).map shownSpan
  let note := if notes.isEmpty then "" else String.intercalate "\n" notes ++ "\n"
  "regex parse error:\n" ++ divider ++ shown ++ divider ++ note ++ "error: " ++ f.cause.message

end Fault

end LuaShell.Regex
