/-!
# Patterns of names

A star stands for any text, a question mark for any character, and brackets for one
of some characters.  Characters that were quoted stand for themselves.
-/

namespace LuaShell.SystemShell

/-- A character of a word, and whether it was quoted. -/
structure Mark where
  char : Char
  isQuoted : Bool

namespace Pattern

/-- Whether some marks hold anything but characters that stand for themselves. -/
def isPattern (ms : List Mark) : Bool :=
  ms.any fun m => !m.isQuoted && "*?[".toList.contains m.char

/-- The text of some marks. -/
def textOf (ms : List Mark) : List Char :=
  ms.map (·.char)

/-- Marks of a text that was quoted. -/
def quoted (cs : List Char) : List Mark :=
  cs.map fun c => ⟨c, true⟩

/-- Whether a character is in a class that has a name. -/
def inClass (name : String) (c : Char) : Bool :=
  match name with
  | "alpha" => c.isAlpha
  | "digit" => c.isDigit
  | "alnum" => c.isAlphanum
  | "upper" => c.isUpper
  | "lower" => c.isLower
  | "space" => c.isWhitespace || c.toNat = 11 || c.toNat = 12
  | "blank" => c = ' ' || c = '\t'
  | "punct" => 32 < c.toNat && c.toNat < 127 && !c.isAlphanum
  | "xdigit" => c.isDigit || ('a' ≤ c && c ≤ 'f') || ('A' ≤ c && c ≤ 'F')
  | _ => false

/-- The items between brackets, as tests, and what follows the bracket that closes them. -/
def items : Nat → Bool → List Mark → Option (List (Char → Bool) × List Mark)
  | 0, _, _ | _, _, [] => none
  | n + 1, isFirst, m :: ms =>
      if m.char = ']' && !m.isQuoted && !isFirst then some ([], ms)
      else if m.char = '[' && !m.isQuoted && (ms.head?.any (·.char = ':')) then
        let body := (ms.drop 1).takeWhile (·.char ≠ ':')
        let name := String.ofList (textOf body)
        let rest := ms.drop (body.length + 3)
        (items n false rest).map fun r => (inClass name :: r.1, r.2)
      else match ms with
        | dash :: high :: rest =>
            if dash.char = '-' && !dash.isQuoted && !(high.char = ']' && !high.isQuoted) then
              (items n false rest).map fun r =>
                ((fun c => m.char ≤ c && c ≤ high.char) :: r.1, r.2)
            else (items n false ms).map fun r => ((fun c => c = m.char) :: r.1, r.2)
        | _ => (items n false ms).map fun r => ((fun c => c = m.char) :: r.1, r.2)

/-- What brackets allow, and what follows them. -/
def bracket? (ms : List Mark) : Option ((Char → Bool) × List Mark) :=
  let isNegated := ms.head?.any fun m => (m.char = '!' || m.char = '^') && !m.isQuoted
  (items (ms.length + 1) true (if isNegated then ms.drop 1 else ms)).map fun (tests, rest) =>
    (fun c => tests.any (· c) != isNegated, rest)

/-- Whether a pattern fits a text. -/
def fits : Nat → List Mark → List Char → Bool
  | 0, _, _ => false
  | _, [], cs => cs.isEmpty
  | n + 1, m :: ms, cs =>
      let itself : Bool := match cs with
        | c :: cs => c = m.char && fits n ms cs
        | [] => false
      if m.isQuoted then itself
      else if m.char = '*' then
        fits n ms cs || (match cs with
          | _ :: cs => fits n (m :: ms) cs
          | [] => false)
      else if m.char = '?' then match cs with
        | _ :: cs => fits n ms cs
        | [] => false
      else if m.char = '[' then match bracket? ms with
        | some (allows, rest) => match cs with
          | c :: cs => allows c && fits n rest cs
          | [] => false
        | none => itself
      else itself

/-- Whether a pattern fits a text. -/
def isMatch (ms : List Mark) (cs : List Char) : Bool :=
  fits (ms.length + cs.length + 1) ms cs

end Pattern

end LuaShell.SystemShell
