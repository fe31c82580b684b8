import LuaShell.Regex.Grammar
import LuaShell.Regex.Matcher

/-!
# The meaning of patterns

From what a pattern says to what it matches.  Flags hold from where they are switched
to the end of the group.
-/

namespace LuaShell.Regex

/-- The flags that matter for what is matched. -/
structure Modes where
  isInsensitive : Bool
  isMultiLine : Bool
  isDotAll : Bool
  isUnicode : Bool
  isCarriage : Bool

namespace Modes

/-- How a pattern begins. -/
def start : Modes := ⟨false, false, false, true, false⟩

/-- Switch a flag. -/
def switch (m : Modes) (f : Flag × Bool) : Modes :=
  match f.1 with
  | .insensitive => { m with isInsensitive := f.2 }
  | .multiLine => { m with isMultiLine := f.2 }
  | .dotAll => { m with isDotAll := f.2 }
  | .unicode => { m with isUnicode := f.2 }
  | .carriage => { m with isCarriage := f.2 }
  | .swapped | .blanks => m

end Modes

/-- The meaning of a part, which may switch flags for what follows. -/
abbrev Meaning := StateT Modes (Except Fault)

namespace Meaning

/-- Fail at a part of the pattern. -/
def fail {α : Type} (cause : Cause) (span : Span) : Meaning α :=
  throw ⟨cause, span, none⟩

/-- A class with capitals and small letters for each other, if they are the same. -/
def folded (c : CharClass) : Meaning CharClass := do
  let m ← get
  return if m.isInsensitive then .folded m.isUnicode c else c

/-- A class, or all other characters. What is no character cannot be matched. -/
def negatedIf (isNegated : Bool) (span : Span) (c : CharClass) : Meaning CharClass := do
  if isNegated then
    if !(← get).isUnicode then fail .invalidText span
    return .negation c
  return c

/-- A character in a class. -/
def inClass (c : Literal) : Meaning Nat := do
  if !(← get).isUnicode && 127 < c.char.toNat then
    fail (if c.isByte then .invalidText else .unicodeForbidden) c.span
  return c.char.toNat

/-- The meaning of a class. -/
def classOf : ClassItem → Meaning CharClass
  | .char c => do
      let n ← inClass c
      return .range n n
  | .range a b => do
      let first ← inClass a
      return .range first (← inClass b)
  | .kind k isNegated span => do
      negatedIf isNegated span (.kind k (← get).isUnicode)
  | .property name isNegated span => do
      if !(← get).isUnicode then fail .unicodeForbidden span
      match Property.read name with
      | .ok p => negatedIf isNegated span (← folded (.property p))
      | .error cause => fail cause span
  | .named c isNegated span => do negatedIf isNegated span (← folded (.ofNamed c))
  | .union items => ofItems items
  | .op op a b => do
      let first ← folded (← classOf a)
      return .op op first (← folded (← classOf b))
  | .bracketed item isNegated span => do
      negatedIf isNegated span (← folded (← classOf item))
where
  /-- The meaning of several classes together. -/
  ofItems : List ClassItem → Meaning CharClass
    | [] => return .nothing
    | item :: items => do
        let c ← classOf item
        return .union c (← ofItems items)

/-- The condition of an anchor. -/
def edgeOf (a : Anchor) : Meaning Edge := do
  let m ← get
  return match a with
    | .lineStart => if m.isMultiLine then .lineStart m.isCarriage else .textStart
    | .lineEnd => if m.isMultiLine then .lineEnd m.isCarriage else .textEnd
    | .textStart => .textStart
    | .textEnd => .textEnd
    | a => .word a m.isUnicode

/-- The characters that the dot stands for. -/
def dotClass (m : Modes) : CharClass :=
  if m.isDotAll then .negation .nothing
  else if m.isCarriage then .negation (.union (.range 10 10) (.range 13 13))
  else .negation (.range 10 10)

/-- The meaning of a pattern. -/
def matcherOf : Ast → Meaning Matcher
  | .literal c => do
      if c.isByte && !(← get).isUnicode && 127 < c.char.toNat then fail .invalidText c.span
      return .one (← folded (.range c.char.toNat c.char.toNat))
  | .dot span => do
      let m ← get
      if !m.isUnicode then fail .invalidText span
      return .one (dotClass m)
  | .anchor a => return .edge (← edgeOf a)
  | .cls c => return .one (← classOf c)
  | .flags fs => do
      modify fun m => fs.foldl Modes.switch m
      return .empty
  | .group fs body => do
      let outer ← get
      set (fs.foldl Modes.switch outer)
      let m ← matcherOf body
      set outer
      return m
  | .repeated least most body => return .repeated least most (← matcherOf body)
  | .sequence parts => inSequence parts
  | .choice [] => return .empty
  | .choice (first :: options) => do choiceOf (← matcherOf first) options
where
  /-- Several parts, one after the other. -/
  inSequence : List Ast → Meaning Matcher
    | [] => return .empty
    | part :: parts => do
        let m ← matcherOf part
        return .sequence m (← inSequence parts)
  /-- One of several options. -/
  choiceOf (m : Matcher) : List Ast → Meaning Matcher
    | [] => return m
    | option :: options => do choiceOf (.choice m (← matcherOf option)) options

end Meaning

/-- What a text matches as a pattern. -/
def Matcher.ofString (pattern : String) : Except Fault Matcher := do
  let ast ← Ast.ofString pattern
  return (← (Meaning.matcherOf ast).run Modes.start).1

end LuaShell.Regex
