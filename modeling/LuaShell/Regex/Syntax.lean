import LuaShell.Regex.Fault

/-!
# The syntax of patterns

What a pattern says, before its flags are applied.  Parts that can turn out to be of no
use once the flags are known remember where they stand.
-/

namespace LuaShell.Regex

/-- Something that can be switched on and off. -/
inductive Flag where
  /-- Capitals and small letters are the same. -/
  | insensitive
  /-- The beginning and the end are those of lines. -/
  | multiLine
  /-- The dot is also the end of a line. -/
  | dotAll
  /-- Which repetitions are short is turned round. -/
  | swapped
  /-- Classes are those of Unicode. -/
  | unicode
  /-- Lines also end with carriage returns. -/
  | carriage
  /-- Blanks and comments do not count. -/
  | blanks
  deriving DecidableEq

/-- A place between characters. -/
inductive Anchor where
  | lineStart
  | lineEnd
  | textStart
  | textEnd
  | boundary
  | noBoundary
  | wordStart
  | wordEnd
  | wordStartHalf
  | wordEndHalf
  deriving DecidableEq

/-- A kind of characters with a letter of its own. -/
inductive Kind where
  | digit
  | space
  | word
  deriving DecidableEq

/-- A class by its name between colons. -/
inductive NamedClass where
  | alnum
  | alpha
  | ascii
  | blank
  | cntrl
  | digit
  | graph
  | lower
  | print
  | punct
  | space
  | upper
  | word
  | xdigit
  deriving DecidableEq

/-- How two classes are put together. -/
inductive ClassOp where
  | intersection
  | difference
  | symmetricDifference
  deriving DecidableEq

/-- A character as it stands in a pattern; `isByte` if it is given by two hexadecimal
digits. -/
structure Literal where
  char : Char
  isByte : Bool
  span : Span

/-- A class of characters. -/
inductive ClassItem where
  | char (c : Literal)
  | range (first last : Literal)
  | kind (k : Kind) (isNegated : Bool) (span : Span)
  | property (name : String) (isNegated : Bool) (span : Span)
  | named (c : NamedClass) (isNegated : Bool) (span : Span)
  | union (items : List ClassItem)
  | op (op : ClassOp) (a b : ClassItem)
  | bracketed (item : ClassItem) (isNegated : Bool) (span : Span)

/-- A pattern. -/
inductive Ast where
  | literal (c : Literal)
  | dot (span : Span)
  | anchor (a : Anchor)
  | cls (c : ClassItem)
  /-- From here to the end of the group flags are switched. -/
  | flags (fs : List (Flag × Bool))
  | group (fs : List (Flag × Bool)) (body : Ast)
  | repeated (least : Nat) (most : Option Nat) (body : Ast)
  | sequence (parts : List Ast)
  | choice (options : List Ast)

end LuaShell.Regex
