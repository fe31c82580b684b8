import LuaShell.Regex.Syntax
import LuaShell.Text.Word

/-!
# Reading patterns

From a text to what it says as a pattern.  Every rule takes at least one character, or
ends; so the length of the text bounds how often rules call each other.
-/

namespace LuaShell.Regex

/-- Where the reader is, whether blanks count, and which groups have names. -/
structure Cursor where
  rest : List Char
  place : Place
  skipsBlanks : Bool
  names : List (String × Span)

/-- Reading a pattern. -/
abbrev Parse := StateT Cursor (Except Fault)

namespace Parse

/-! ## Characters -/

/-- Fail at a part of the pattern. -/
def fail {α : Type} (cause : Cause) (span : Span) : Parse α :=
  throw ⟨cause, span, none⟩

/-- The place after a character. -/
def after (p : Place) (c : Char) : Place :=
  if c = '\n' then ⟨p.line + 1, 1⟩ else ⟨p.line, p.column + 1⟩

def place : Parse Place := return (← get).place

def peek : Parse (Option Char) := return (← get).rest.head?

/-- The character after the next one. -/
def second : Parse (Option Char) := return ((← get).rest.drop 1).head?

def isAtEnd : Parse Bool := return (← get).rest.isEmpty

/-- The place of the reader, as a span of no width. -/
def here : Parse Span := return ⟨← place, ← place⟩

/-- The span of the next character. -/
def charSpan : Parse Span := do
  let c ← get
  return ⟨c.place, (c.rest.head?).elim c.place (after c.place)⟩

/-- The span from a place to the reader. -/
def since (start : Place) : Parse Span := return ⟨start, ← place⟩

/-- Take the next character. -/
def advance : Parse Unit :=
  modify fun c => match c.rest with
    | [] => c
    | x :: rest => { c with rest := rest, place := after c.place x }

/-- Take a word if it is next. -/
def accept (word : String) : Parse Bool := do
  if word.toList.isPrefixOf (← get).rest then
    for _ in word.toList do advance
    return true
  return false

/-- Text after blanks and comments. -/
def dropBlanks (isComment : Bool) (p : Place) : List Char → List Char × Place
  | [] => ([], p)
  | c :: rest =>
      if isComment then dropBlanks (c ≠ '\n') (after p c) rest
      else if Text.isBlank c then dropBlanks false (after p c) rest
      else if c = '#' then dropBlanks true (after p c) rest
      else (c :: rest, p)

/-- Skip blanks and comments, if they do not count. -/
def skipBlanks : Parse Unit :=
  modify fun c =>
    if c.skipsBlanks then
      let (rest, p) := dropBlanks false c.place c.rest
      { c with rest := rest, place := p }
    else c

/-- Take the next character and the blanks after it. Answers whether something is left. -/
def advanceOver : Parse Bool := do
  advance
  skipBlanks
  return !(← isAtEnd)

/-- The character that comes after the next one and blanks. -/
def secondOver : Parse (Option Char) := do
  let c ← get
  if c.skipsBlanks then return (dropBlanks false c.place (c.rest.drop 1)).1.head?
  return (c.rest.drop 1).head?

/-- Take characters while they are of some kind, and blanks after each; at most so many. -/
def takeWhileOver (p : Char → Bool) : Nat → List Char → Parse (List Char)
  | 0, taken => return taken.reverse
  | n + 1, taken => do
      match ← peek with
      | some c =>
          if p c then
            let _ ← advanceOver
            takeWhileOver p n (c :: taken)
          else return taken.reverse
      | none => return taken.reverse

/-- How many characters are left. -/
def fuel : Parse Nat := return (← get).rest.length + 1

/-! ## Numbers -/

/-- The number that digits write. -/
def natOfDigits (base : Nat) (digits : List Char) : Nat :=
  digits.foldl (fun n c =>
    let v := if c.isDigit then c.toNat - 48 else c.toLower.toNat - 87
    base * n + v) 0

/-- No number is greater than this. -/
def maxNumber : Nat := 4294967295

/-- A number, or why there is none. -/
def decimal : Parse (Except Fault Nat) := do
  let _ ← takeWhileOver Text.isBlank (← fuel) []
  let start ← place
  let digits ← takeWhileOver Char.isDigit (← fuel) []
  let span ← since start
  let _ ← takeWhileOver Text.isBlank (← fuel) []
  if digits.isEmpty then return .error ⟨.countEmpty, span, none⟩
  let n := natOfDigits 10 digits
  return if n ≤ maxNumber then .ok n else .error ⟨.decimalTooLarge, span, none⟩

def isHexDigit (c : Char) : Bool :=
  c.isDigit || ('a' ≤ c && c ≤ 'f') || ('A' ≤ c && c ≤ 'F')

/-- The character of a number. -/
def charOf (n : Nat) (span : Span) : Parse Char :=
  if n.isValidChar then pure (Char.ofNat n) else fail .hexNoCharacter span

/-- So many hexadecimal digits. -/
def hexDigits : Nat → List Char → Parse (List Char)
  | 0, taken => return taken.reverse
  | n + 1, taken => do
      match ← peek with
      | none => fail .escapeUnfinished (← here)
      | some c =>
          if !isHexDigit c then fail .hexDigit (← charSpan)
          let isMore ← advanceOver
          if 0 < n && !isMore then fail .escapeUnfinished (← here)
          hexDigits n (c :: taken)

/-- Hexadecimal digits up to a closing brace; the reader is before the first one. -/
def bracedDigits (brace : Place) : Nat → List Char → Parse (List Char)
  | 0, taken => return taken.reverse
  | n + 1, taken => do
      match ← peek with
      | none => fail .escapeUnfinished (← since brace)
      | some '\x7d' => return taken.reverse
      | some c =>
          if !isHexDigit c then fail .hexDigit (← charSpan)
          let _ ← advanceOver
          bracedDigits brace n (c :: taken)

/-- A character by its number; the reader is at the letter that says how many digits there
are. -/
def hexLiteral (start : Place) (letter : Char) : Parse Literal := do
  let count := if letter = 'x' then 2 else if letter = 'u' then 4 else 8
  if !(← advanceOver) then fail .escapeUnfinished (← here)
  if (← peek) = some '\x7b' then
    let brace ← place
    let first := (← charSpan).stop
    let _ ← advanceOver
    let digits ← bracedDigits brace (← fuel) []
    let last ← place
    let _ ← advanceOver
    if digits.isEmpty then fail .hexEmpty (← since brace)
    return ⟨← charOf (natOfDigits 16 digits) ⟨first, last⟩, false, ← since start⟩
  else
    let first ← place
    let digits ← hexDigits count []
    return ⟨← charOf (natOfDigits 16 digits) (← since first), letter = 'x', ← since start⟩

/-! ## Escapes -/

/-- What stands for one place in a pattern. -/
inductive Primitive where
  | literal (c : Literal)
  | anchor (a : Anchor) (span : Span)
  | cls (c : ClassItem)

/-- Characters that mean something in patterns. -/
def isMeta (c : Char) : Bool := "\\.+*?()|[]\x7b\x7d^$#&-~".toList.contains c

/-- Characters that stand for themselves after a backslash. -/
def isPlainEscape (c : Char) : Bool :=
  isMeta c || (c.toNat < 128 && !c.isAlphanum && c ≠ '<' && c ≠ '>')

/-- What the letters that stand for control characters stand for. -/
def control? : Char → Option Char
  | 'a' => some '\x07'
  | 'f' => some '\x0c'
  | 't' => some '\t'
  | 'n' => some '\n'
  | 'r' => some '\r'
  | 'v' => some '\x0b'
  | _ => none

/-- The name of a special boundary between braces, if it is one and not a count. -/
def boundaryName (start : Place) : Parse (Option Anchor) := do
  let before ← get
  let brace ← place
  let isLetter (c : Char) : Bool := c.isAlpha || c = '-'
  if !(← advanceOver) then fail .boundaryUnfinished (← since start)
  let contents ← place
  if !((← peek).any isLetter) then
    set before
    return none
  let name ← takeWhileOver isLetter (← fuel) []
  if (← peek) ≠ some '\x7d' then fail .boundaryUnclosed (← since brace)
  let span ← since contents
  advance
  match String.ofList name with
  | "start" => return some .wordStart
  | "end" => return some .wordEnd
  | "start-half" => return some .wordStartHalf
  | "end-half" => return some .wordEndHalf
  | _ => fail .boundaryUnknown span

/-- A class by the name of a property; the reader is at the letter before the name. -/
def property (start : Place) (isNegated : Bool) : Parse ClassItem := do
  if !(← advanceOver) then fail .escapeUnfinished (← here)
  match ← peek with
  | some '\x7b' =>
      let _ ← advanceOver
      let name ← takeWhileOver (· ≠ '\x7d') (← fuel) []
      if ← isAtEnd then fail .escapeUnfinished (← here)
      advance
      return .property (String.ofList name) isNegated (← since start)
  | some '\\' => fail .propertyName (← charSpan)
  | some c =>
      let _ ← advanceOver
      return .property (String.singleton c) isNegated (← since start)
  | none => fail .escapeUnfinished (← here)

/-- What follows a backslash. -/
def escape : Parse Primitive := do
  let start ← place
  advance
  match ← peek with
  | none => fail .escapeUnfinished (← since start)
  | some c =>
      let kind (k : Kind) (isNegated : Bool) : Parse Primitive := do
        advance
        return .cls (.kind k isNegated (← since start))
      if c.isDigit then
        fail .backreference ⟨start, (← charSpan).stop⟩
      match c with
      | 'x' | 'u' | 'U' => return .literal (← hexLiteral start c)
      | 'p' => return .cls (← property start false)
      | 'P' => return .cls (← property start true)
      | 'd' => kind .digit false
      | 's' => kind .space false
      | 'w' => kind .word false
      | 'D' => kind .digit true
      | 'S' => kind .space true
      | 'W' => kind .word true
      | _ =>
          advance
          let span ← since start
          if isPlainEscape c then return .literal ⟨c, false, span⟩
          match control? c with
          | some x => return .literal ⟨x, false, span⟩
          | none => match c with
            | 'A' => return .anchor .textStart span
            | 'z' => return .anchor .textEnd span
            | 'b' =>
                if (← peek) = some '\x7b' then
                  match ← boundaryName start with
                  | some a => return .anchor a (← since start)
                  | none => return .anchor .boundary span
                return .anchor .boundary span
            | 'B' => return .anchor .noBoundary span
            | '<' => return .anchor .wordStart span
            | '>' => return .anchor .wordEnd span
            | _ => fail .escapeUnknown span

/-! ## Classes -/

/-- The class of a name. -/
def namedClass? : String → Option NamedClass
  | "alnum" => some .alnum
  | "alpha" => some .alpha
  | "ascii" => some .ascii
  | "blank" => some .blank
  | "cntrl" => some .cntrl
  | "digit" => some .digit
  | "graph" => some .graph
  | "lower" => some .lower
  | "print" => some .print
  | "punct" => some .punct
  | "space" => some .space
  | "upper" => some .upper
  | "word" => some .word
  | "xdigit" => some .xdigit
  | _ => none

/-- A class between colons, if there is one. -/
def colonClass? : Parse (Option ClassItem) := do
  let start ← place
  let rest := (← get).rest
  match rest.drop 1 with
  | ':' :: more =>
      let (isNegated, more) := match more with
        | '^' :: more => (true, more)
        | more => (false, more)
      let name := more.takeWhile (· ≠ ':')
      match namedClass? (String.ofList name), (more.drop name.length).take 2 with
      | some c, [':', ']'] =>
          for _ in List.range (name.length + (if isNegated then 5 else 4)) do advance
          return some (.named c isNegated (← since start))
      | _, _ => return none
  | _ => return none

/-- A character or a class inside brackets. -/
def classPrimitive : Parse Primitive := do
  match ← peek with
  | some '\\' => escape
  | some c =>
      let start ← place
      advance
      return .literal ⟨c, false, ← since start⟩
  | none => fail .escapeUnfinished (← here)

/-- What can stand alone inside brackets. -/
def asItem : Primitive → Parse ClassItem
  | .literal c => return .char c
  | .cls c => return c
  | .anchor _ span => fail .classEscape span

/-- The span of a class that is no bracket. -/
def spanOf : ClassItem → Option Span
  | .kind _ _ span | .property _ _ span | .named _ _ span => some span
  | _ => none

/-- What can begin or end a range. -/
def asBoundary : Primitive → Parse Literal
  | .literal c => return c
  | .anchor _ span => fail .classRangeBoundary span
  | .cls c => do fail .classRangeBoundary ((spanOf c).getD (← here))

/-- A character, a class or a range inside brackets, which begin with a span. -/
def classRange (opening : Span) : Parse ClassItem := do
  let first ← classPrimitive
  skipBlanks
  if ← isAtEnd then fail .classUnclosed opening
  let next ← secondOver
  if (← peek) ≠ some '-' || next = some ']' || next = some '-' then return ← asItem first
  if !(← advanceOver) then fail .classUnclosed opening
  let last ← classPrimitive
  let a ← asBoundary first
  let b ← asBoundary last
  if b.char < a.char then fail .classRange ⟨a.span.start, b.span.stop⟩
  return .range a b

/-- What has been read of a class: an operation that waits for its second operand, and the
items so far, the last one first. -/
structure OpenClass where
  waiting : Option (ClassOp × ClassItem)
  items : List ClassItem

namespace OpenClass

/-- The class as far as it has been read. -/
def close (c : OpenClass) : ClassItem :=
  let item := match c.items with
    | [one] => one
    | items => .union items.reverse
  match c.waiting with
  | none => item
  | some (op, a) => .op op a item

/-- Add an item. -/
def push (c : OpenClass) (item : ClassItem) : OpenClass :=
  { c with items := item :: c.items }

/-- Let what has been read be the first operand of an operation. -/
def operate (c : OpenClass) (op : ClassOp) : OpenClass :=
  ⟨some (op, c.close), []⟩

end OpenClass

/-- Hyphens at the front of a class. -/
def leadingHyphens (start : Place) : Nat → OpenClass → Parse OpenClass
  | 0, c => return c
  | n + 1, c => do
      if (← peek) = some '-' then
        let span ← charSpan
        if !(← advanceOver) then fail .classUnclosed ⟨start, start⟩
        leadingHyphens start n (c.push (.char ⟨'-', false, span⟩))
      else return c

/-- The beginning of a class in brackets: whether it is negated, its first items, and the
span. -/
def classHead : Parse (Bool × OpenClass × Span) := do
  let start ← place
  if !(← advanceOver) then fail .classUnclosed (← since start)
  let isNegated := (← peek) = some '^'
  if isNegated then
    if !(← advanceOver) then fail .classUnclosed (← since start)
  let c ← leadingHyphens start (← fuel) ⟨none, []⟩
  if c.items.isEmpty && (← peek) = some ']' then
    let span ← charSpan
    if !(← advanceOver) then fail .classUnclosed (← since start)
    return (isNegated, c.push (.char ⟨']', false, span⟩), ← since start)
  return (isNegated, c, ← since start)

/-- What follows in a class in brackets that begins with a span. -/
def classItems (opening : Span) (isNegated : Bool) : Nat → OpenClass → Parse ClassItem
  | 0, _ => fail .classUnclosed opening
  | n + 1, c => do
      skipBlanks
      let operator (op : ClassOp) : Parse ClassItem := do
        advance
        advance
        classItems opening isNegated n (c.operate op)
      let item : Parse ClassItem := do
        classItems opening isNegated n (c.push (← classRange opening))
      match ← peek, ← second with
      | none, _ => fail .classUnclosed opening
      | some '[', _ => match ← colonClass? with
        | some named => classItems opening isNegated n (c.push named)
        | none =>
            let (innerNegated, inner, span) ← classHead
            let nested ← classItems span innerNegated n inner
            classItems opening isNegated n (c.push nested)
      | some ']', _ =>
          advance
          return .bracketed c.close isNegated ⟨opening.start, ← place⟩
      | some '&', some '&' => operator .intersection
      | some '-', some '-' => operator .difference
      | some '~', some '~' => operator .symmetricDifference
      | some _, _ => item

/-- A class in brackets. -/
def bracketed : Parse ClassItem := do
  let (isNegated, c, span) ← classHead
  classItems span isNegated (← fuel) c

/-! ## Groups -/

/-- The flag of a letter. -/
def flag? : Char → Option Flag
  | 'i' => some .insensitive
  | 'm' => some .multiLine
  | 's' => some .dotAll
  | 'U' => some .swapped
  | 'u' => some .unicode
  | 'R' => some .carriage
  | 'x' => some .blanks
  | _ => none

/-- Flags up to a colon or a closing parenthesis, where `none` turns the ones after it
off. -/
def flagItems : Nat → List (Option Flag × Span) → Parse (List (Option Flag × Span))
  | 0, items => return items.reverse
  | n + 1, items => do
      match ← peek with
      | some ':' | some ')' => return items.reverse
      | none => return items.reverse
      | some c =>
          let span ← charSpan
          let item : Option Flag ← if c = '-' then pure none else match flag? c with
            | some f => pure (some f)
            | none => fail .flagUnknown span
          match items.find? (·.1 = item) with
          | some (f, other) =>
              throw ⟨if f.isNone then .negationRepeated else .flagRepeated, span, some other⟩
          | none => pure ()
          advance
          if ← isAtEnd then fail .flagUnfinished (← here)
          flagItems n ((item, span) :: items)

/-- What flags say. -/
def switched (items : List (Option Flag × Span)) : List (Flag × Bool) :=
  (items.foldl (fun (isOn, fs) item => match item.1 with
    | some f => (isOn, fs ++ [(f, isOn)])
    | none => (false, fs)) (true, [])).2

/-- Whether blanks count after flags, if the flags say so. -/
def blanksAfter? (fs : List (Flag × Bool)) : Option Bool :=
  (fs.find? (·.1 = .blanks)).map (·.2)

/-- The name of a group. -/
def groupName : Parse Unit := do
  if ← isAtEnd then fail .nameUnclosed (← here)
  let start ← place
  let name ← letters start (← fuel) []
  let span ← since start
  if ← isAtEnd then fail .nameUnclosed (← here)
  advance
  if name.isEmpty then fail .nameEmpty ⟨start, start⟩
  let name := String.ofList name
  match (← get).names.find? (·.1 = name) with
  | some (_, other) => throw ⟨.nameRepeated, span, some other⟩
  | none => modify fun c => { c with names := c.names ++ [(name, span)] }
where
  letters (start : Place) : Nat → List Char → Parse (List Char)
    | 0, taken => return taken.reverse
    | n + 1, taken => do
        match ← peek with
        | none | some '>' => return taken.reverse
        | some c =>
            let isAllowed :=
              if taken.isEmpty then c = '_' || Text.isLetter c
              else "_.[]".toList.contains c || Text.isAlphanumeric c
            if !isAllowed then fail .nameCharacter (← charSpan)
            advance
            letters start n (c :: taken)

/-- How a group begins. -/
inductive GroupHead where
  /-- Flags alone. -/
  | flags (fs : List (Flag × Bool))
  /-- A group with a body. -/
  | body (fs : List (Flag × Bool))

/-- The beginning of a group, which begins with a span. -/
def groupHead (opening : Span) : Parse GroupHead := do
  advance
  skipBlanks
  if (← accept "?=") || (← accept "?!") || (← accept "?<=") || (← accept "?<!") then
    fail .lookaround (← since opening.start)
  let inner ← here
  if (← accept "?P<") || (← accept "?<") then
    groupName
    return .body []
  if ← accept "?" then
    if ← isAtEnd then fail .groupUnclosed opening
    let items ← flagItems (← fuel) []
    match items.getLast? with
    | some (none, span) => fail .negationDangling span
    | _ => pure ()
    let isAlone := (← peek) = some ')'
    advance
    if isAlone then
      if items.isEmpty then fail .nothingToRepeat inner
      return .flags (switched items)
    return .body (switched items)
  return .body []

/-! ## Repetitions -/

/-- What a repetition repeats, and the parts before it, which are given with the last one
first. -/
def repeatable : List Ast → Parse (Ast × List Ast)
  | [] => do fail .nothingToRepeat (← here)
  | .flags _ :: _ => do fail .nothingToRepeat (← here)
  | a :: before => return (a, before)

/-- A question mark that asks for the shortest repetition says nothing about whether there
is one. -/
def skipLazy : Parse Unit := do
  if (← peek) = some '?' then advance

/-- A repetition with numbers. -/
def counted (body : Ast) : Parse Ast := do
  let start ← place
  let unclosed {α : Type} : Parse α := do fail .countUnclosed (← since start)
  let demand (n : Except Fault Nat) : Parse Nat := match n with
    | .ok n => pure n
    | .error e => throw e
  if !(← advanceOver) then unclosed
  let least ← decimal
  if ← isAtEnd then unclosed
  let (least, most) ← if (← peek) = some ',' then do
      if !(← advanceOver) then unclosed
      if (← peek) ≠ some '\x7d' then
        let least ← demand least
        pure (least, some (← demand (← decimal)))
      else pure (← demand least, none)
    else do
      let n ← demand least
      pure (n, some n)
  if (← peek) ≠ some '\x7d' then unclosed
  if ← advanceOver then skipLazy
  if most.any (· < least) then fail .countRange (← since start)
  return .repeated least most body

/-! ## Patterns -/

/-- Parts one after the other, given with the last one first. -/
def inSequence : List Ast → Ast
  | [one] => one
  | parts => .sequence parts.reverse

/-- The options that have been read, the last one first, and the parts of the one in hand. -/
def finished (options : List Ast) (parts : List Ast) : Ast :=
  match options with
  | [] => inSequence parts
  | options => .choice (inSequence parts :: options).reverse

/-- What one character or escape says. -/
def primitive (c : Char) : Parse Ast := do
  match c with
  | '\\' => match ← escape with
    | .literal l => return .literal l
    | .anchor a _ => return .anchor a
    | .cls k => return .cls k
  | _ =>
      let span ← charSpan
      advance
      match c with
      | '.' => return .dot span
      | '^' => return .anchor .lineStart
      | '$' => return .anchor .lineEnd
      | _ => return .literal ⟨c, false, span⟩

/-- Parts up to the end of a group or of the pattern. -/
def parts : Nat → List Ast → List Ast → Parse Ast
  | 0, options, before => return finished options before
  | n + 1, options, before => do
      skipBlanks
      let simple (least : Nat) (most : Option Nat) : Parse Ast := do
        let (body, before) ← repeatable before
        advance
        skipLazy
        parts n options (.repeated least most body :: before)
      match ← peek with
      | none | some ')' => return finished options before
      | some '|' =>
          advance
          parts n (inSequence before :: options) []
      | some '(' =>
          let opening ← charSpan
          match ← groupHead opening with
          | .flags fs =>
              modify fun c => { c with skipsBlanks := (blanksAfter? fs).getD c.skipsBlanks }
              parts n options (.flags fs :: before)
          | .body fs =>
              let outer := (← get).skipsBlanks
              modify fun c => { c with skipsBlanks := (blanksAfter? fs).getD outer }
              let body ← parts n [] []
              if ← isAtEnd then fail .groupUnclosed opening
              modify fun c => { c with skipsBlanks := outer }
              advance
              parts n options (.group fs body :: before)
      | some '[' => parts n options (.cls (← bracketed) :: before)
      | some '?' => simple 0 (some 1)
      | some '*' => simple 0 none
      | some '+' => simple 1 none
      | some '\x7b' =>
          let (body, before) ← repeatable before
          parts n options ((← counted body) :: before)
      | some c => parts n options ((← primitive c) :: before)

end Parse

/-- What a text says as a pattern. -/
def Ast.ofString (pattern : String) : Except Fault Ast := do
  let cs := pattern.toList
  let (ast, c) ← Parse.parts (cs.length + 1) [] [] ⟨cs, ⟨1, 1⟩, false, []⟩
  match c.rest with
  | [] => return ast
  | x :: _ => throw ⟨.groupUnopened, ⟨c.place, Parse.after c.place x⟩, none⟩

end LuaShell.Regex
