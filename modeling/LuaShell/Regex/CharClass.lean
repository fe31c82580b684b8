import LuaShell.Regex.Syntax
import LuaShell.Text.Folding
import LuaShell.Text.Word

/-!
# Classes of characters

What the classes of a pattern contain, once the flags are known.
-/

namespace LuaShell.Regex

/-- What a property says about a character. -/
inductive Property where
  | any
  | ascii
  | letter
  | capital
  | small
  | digit
  | number
  | blank
  | control
  | punctuation
  | symbol
  deriving DecidableEq

namespace Property

/-- The property of a name, in small letters and without blanks, hyphens and low lines. -/
def ofName? : String → Option Property
  | "any" => some .any
  | "ascii" => some .ascii
  | "l" | "letter" | "alphabetic" | "alpha" => some .letter
  | "lu" | "uppercaseletter" | "uppercase" | "upper" => some .capital
  | "ll" | "lowercaseletter" | "lowercase" | "lower" => some .small
  | "nd" | "decimalnumber" => some .digit
  | "n" | "number" => some .number
  | "z" | "separator" | "zs" | "spaceseparator" | "whitespace" | "space" => some .blank
  | "cc" | "control" | "c" | "other" => some .control
  | "p" | "punctuation" | "punct" => some .punctuation
  | "s" | "symbol" => some .symbol
  | _ => none

/-- The property that a text between braces says. -/
def read (name : String) : Except Cause Property :=
  let plain (cs : List Char) : String :=
    String.ofList ((cs.filter fun c => c ≠ '_' && c ≠ '-' && c ≠ ' ').map Char.toLower)
  let cs := name.toList
  match cs.findIdx? fun c => c = ':' || c = '=' with
  | some i =>
      let key := plain (cs.take i)
      if key = "gc" || key = "generalcategory" then
        match ofName? (plain (cs.drop (i + 1))) with
        | some p => .ok p
        | none => .error .propertyValueUnknown
      else if key = "sc" || key = "script" || key = "scx" || key = "scriptextensions" then
        .error .propertyValueUnknown
      else .error .propertyUnknown
  | none => match ofName? (plain cs) with
    | some p => .ok p
    | none => .error .propertyUnknown

/-- The symbols of ASCII; the other signs there are punctuation. -/
def asciiSymbols : List Char := "$+<=>^|~".toList ++ [Char.ofNat 96]

/-- Whether a character has a property. -/
def holds (p : Property) (c : Char) : Bool :=
  let isSign := 32 < c.toNat && c.toNat < 127 && !c.isAlphanum
  match p with
  | .any => true
  | .ascii => c.toNat < 128
  | .letter => Text.isLetter c
  | .capital => Text.isLetter c && Text.foldedCase c.toNat ≠ c.toNat
  | .small =>
      Text.isLetter c && Text.foldedCase c.toNat = c.toNat && 1 < (Text.caseMates c.toNat).length
  | .digit => Text.isDigit c
  | .number => Text.isAlphanumeric c && !Text.isLetter c
  | .blank => Text.isBlank c
  | .control => c.toNat < 32 || (127 ≤ c.toNat && c.toNat < 160)
  | .punctuation => isSign && !asciiSymbols.contains c
  | .symbol => isSign && asciiSymbols.contains c

end Property

/-- A class of characters. -/
inductive CharClass where
  | nothing
  | range (first last : Nat)
  | kind (k : Kind) (isUnicode : Bool)
  | property (p : Property)
  | union (a b : CharClass)
  | op (op : ClassOp) (a b : CharClass)
  | negation (a : CharClass)
  /-- With capitals and small letters for each other. -/
  | folded (isUnicode : Bool) (a : CharClass)

namespace CharClass

/-- Whether a character is of a kind. -/
def isKind (k : Kind) (isUnicode : Bool) (c : Char) : Bool :=
  if isUnicode then
    match k with
    | .digit => Text.isDigit c
    | .space => Text.isBlank c
    | .word => Text.isWord c
  else
    match k with
    | .digit => c.isDigit
    | .space => c.toNat = 32 || (9 ≤ c.toNat && c.toNat ≤ 13)
    | .word => c.isAlphanum || c = '_'

/-- Whether a character is in a class. -/
def contains : CharClass → Nat → Bool
  | .nothing, _ => false
  | .range first last, n => first ≤ n && n ≤ last
  | .kind k isUnicode, n => isKind k isUnicode (Char.ofNat n)
  | .property p, n => p.holds (Char.ofNat n)
  | .union a b, n => a.contains n || b.contains n
  | .op .intersection a b, n => a.contains n && b.contains n
  | .op .difference a b, n => a.contains n && !b.contains n
  | .op .symmetricDifference a b, n => a.contains n != b.contains n
  | .negation a, n => !a.contains n
  | .folded isUnicode a, n =>
      a.contains n || (Text.caseMates n).any fun m =>
        (isUnicode || (n < 128 && m < 128)) && a.contains m

/-- The characters between some pairs. -/
def ofRanges (ranges : List (Char × Char)) : CharClass :=
  ranges.foldr (fun r c => .union (.range r.1.toNat r.2.toNat) c) .nothing

/-- The class of a name. -/
def ofNamed : NamedClass → CharClass
  | .alnum => ofRanges [('0', '9'), ('A', 'Z'), ('a', 'z')]
  | .alpha => ofRanges [('A', 'Z'), ('a', 'z')]
  | .ascii => ofRanges [('\x00', '\x7f')]
  | .blank => ofRanges [('\t', '\t'), (' ', ' ')]
  | .cntrl => ofRanges [('\x00', '\x1f'), ('\x7f', '\x7f')]
  | .digit => ofRanges [('0', '9')]
  | .graph => ofRanges [('!', '~')]
  | .lower => ofRanges [('a', 'z')]
  | .print => ofRanges [(' ', '~')]
  | .punct => ofRanges [('!', '/'), (':', '@'), ('[', Char.ofNat 96), ('\x7b', '~')]
  | .space => ofRanges [('\t', '\r'), (' ', ' ')]
  | .upper => ofRanges [('A', 'Z')]
  | .word => ofRanges [('0', '9'), ('A', 'Z'), ('_', '_'), ('a', 'z')]
  | .xdigit => ofRanges [('0', '9'), ('A', 'F'), ('a', 'f')]

end CharClass

end LuaShell.Regex
