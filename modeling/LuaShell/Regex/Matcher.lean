import LuaShell.Regex.CharClass

/-!
# Matching

A pattern leads from places in a text to places behind what it matches.  A text
matches if the pattern leads from some place anywhere.
-/

namespace LuaShell.Regex

/-- A condition on a place between characters. -/
inductive Edge where
  | textStart
  | textEnd
  /-- Whether carriage returns end lines as well. -/
  | lineStart (isCarriage : Bool)
  | lineEnd (isCarriage : Bool)
  /-- A condition on whether there are characters of words before and after. -/
  | word (a : Anchor) (isUnicode : Bool)

namespace Edge

/-- Whether a condition on characters of words holds. -/
def ofWords (before after : Bool) : Anchor → Bool
  | .boundary => before != after
  | .noBoundary => before == after
  | .wordStart => !before && after
  | .wordEnd => before && !after
  | .wordStartHalf => !before
  | .wordEndHalf => !after
  | _ => false

/-- Whether a condition holds at a place of a text. -/
def holds (e : Edge) (text : Array Char) (i : Nat) : Bool :=
  let before? : Option Char := if i = 0 then none else text[i - 1]?
  let after? : Option Char := text[i]?
  match e with
  | .textStart => i = 0
  | .textEnd => i = text.size
  | .lineStart false => before?.all (· = '\n')
  | .lineEnd false => after?.all (· = '\n')
  | .lineStart true =>
      before?.all fun c => c = '\n' || (c = '\r' && after? ≠ some '\n')
  | .lineEnd true =>
      after?.all fun c => c = '\r' || (c = '\n' && before? ≠ some '\r')
  | .word a isUnicode =>
      ofWords (before?.any (CharClass.isKind .word isUnicode))
        (after?.any (CharClass.isKind .word isUnicode)) a

end Edge

/-- A pattern with its flags applied. -/
inductive Matcher where
  | empty
  | one (c : CharClass)
  | edge (e : Edge)
  | sequence (a b : Matcher)
  | choice (a b : Matcher)
  | repeated (least : Nat) (most : Option Nat) (a : Matcher)

namespace Matcher

/-- Some places and others, each once. -/
def merge (a b : List Nat) : List Nat := a ++ b.filter fun i => !a.contains i

/-- Do a step so often, unless it has no effect any more. -/
def iterate (step : List Nat → List Nat) : Nat → List Nat → List Nat
  | 0, places => places
  | n + 1, places =>
      let next := step places
      if next == places then places else iterate step n next

/-- The places that are reached by doing a step at most so often. -/
def reach (step : List Nat → List Nat) : Nat → List Nat → List Nat
  | 0, places => places
  | n + 1, places =>
      let next := merge places (step places)
      if next.length = places.length then places else reach step n next

/-- The places behind what a pattern matches from some places on. -/
def advance (text : Array Char) : Matcher → List Nat → List Nat
  | .empty, places => places
  | .one c, places =>
      places.filterMap fun i =>
        if (text[i]?).any fun x => c.contains x.toNat then some (i + 1) else none
  | .edge e, places => places.filter (e.holds text)
  | .sequence a b, places => b.advance text (a.advance text places)
  | .choice a b, places => merge (a.advance text places) (b.advance text places)
  | .repeated least most a, places =>
      let first := iterate (a.advance text) least places
      let further := match most with
        | some m => min (m - least) (text.size + 1)
        | none => text.size + 1
      reach (a.advance text) further first

/-- Whether a pattern matches somewhere in a text. -/
def isIn (m : Matcher) (text : String) : Bool :=
  let cs := text.toList.toArray
  !(m.advance cs (List.range (cs.size + 1))).isEmpty

end Matcher

end LuaShell.Regex
