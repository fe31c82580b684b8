/-!
# Blank characters

The white space of Unicode, and what is cut by it: leading and trailing blanks,
and words.  The zero width space and the separators `1C` to `1F` are no blanks.
-/

namespace LuaShell.Text

/-- Whether a number lies in one of the closed ranges. -/
def inRanges (ranges : List (Nat × Nat)) (n : Nat) : Bool :=
  ranges.any fun r => r.1 ≤ n && n ≤ r.2

/-- The ranges of the property `White_Space`. -/
def blankRanges : List (Nat × Nat) :=
  [(9, 13), (32, 32), (0x85, 0x85), (0xA0, 0xA0), (0x1680, 0x1680), (0x2000, 0x200A),
   (0x2028, 0x2029), (0x202F, 0x202F), (0x205F, 0x205F), (0x3000, 0x3000)]

/-- White space, as Unicode has it. -/
def isBlank (c : Char) : Bool :=
  inRanges blankRanges c.toNat

/-- Without the blanks at the start. -/
def trimStart (cs : List Char) : List Char :=
  cs.dropWhile isBlank

/-- Without the blanks at the end. -/
def trimEnd (cs : List Char) : List Char :=
  (cs.reverse.dropWhile isBlank).reverse

/-- Without the blanks at both ends. -/
def trim (cs : List Char) : List Char :=
  trimEnd (trimStart cs)

/-- The maximal runs of characters that are no blanks, in order. -/
def words : List Char → List (List Char)
  | [] => []
  | c :: cs =>
      if isBlank c then words cs
      else match cs with
        | [] => [[c]]
        | d :: _ =>
          if isBlank d then [c] :: words cs
          else match words cs with
            | [] => [[c]]
            | w :: ws => (c :: w) :: ws

/-- A character of ASCII is blank exactly if it is a space or one of tab to return. -/
theorem isBlank_ascii : ∀ n : Fin 128,
    isBlank (Char.ofNat n) = decide (n.val = 32 ∨ 9 ≤ n.val ∧ n.val ≤ 13) := by
  decide

end LuaShell.Text
