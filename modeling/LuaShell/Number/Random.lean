/-!
# Random words

A generator of words with four words of state.  One step scrambles the second word
for the answer and mixes all four.  A seed fills two of the words; the first sixteen
answers are thrown away.  `below` cuts a word to the bits that a bound has, and
draws again while the word is above the bound.
-/

namespace LuaShell

/-- The state of the generator. -/
structure RandomState where
  a : UInt64
  b : UInt64
  c : UInt64
  d : UInt64

namespace RandomState

/-- Turn a word to the left. -/
def rotate (x n : UInt64) : UInt64 :=
  (x <<< n) ||| (x >>> (64 - n))

/-- The next word. -/
def next (s : RandomState) : UInt64 × RandomState :=
  let c := s.c ^^^ s.a
  let d := s.d ^^^ s.b
  (rotate (s.b * 5) 7 * 9, ⟨s.a ^^^ d, s.b ^^^ c, c ^^^ (s.b <<< 17), rotate d 45⟩)

/-- Throw away so many words. -/
def skip : Nat → RandomState → RandomState
  | 0, s => s
  | n + 1, s => skip n s.next.2

/-- The state that two words stand for. -/
def ofSeed (x y : UInt64) : RandomState :=
  skip 16 ⟨x, 0xff, y, 0⟩

/-- A number of all ones that is not below a number. -/
def maskOf (n : UInt64) : UInt64 :=
  ([1, 2, 4, 8, 16, 32] : List UInt64).foldl (fun m k => m ||| (m >>> k)) n

/-- A number up to a bound, from a word and, if that does not do, from the words that follow.
At least every other word does; after `fuel` of them the bound itself is the answer. -/
def below (bound : UInt64) : Nat → UInt64 → RandomState → UInt64 × RandomState
  | 0, _, s => (bound, s)
  | fuel + 1, word, s =>
      let cut := word &&& maskOf bound
      if cut ≤ bound then (cut, s)
      else
        let (word, s) := s.next
        below bound fuel word s

/-- A double from zero up to, but not including, one. -/
def unit (word : UInt64) : Float :=
  (word >>> 11).toFloat / 9007199254740992.0

end RandomState

end LuaShell
