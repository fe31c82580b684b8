import LuaShell.Lua.Interpreter
import LuaShell.Proofs.Script.Outcome

/-!
# Verdicts on a text

A text that is typed at the prompt is compiled twice, under two chunk names: first it is asked
whether more text is to come, then the text is run as a unit.  When the verdict on a text does
not depend on the chunk name, both compilations agree (`needsMoreInput_eq`): more input is asked
for exactly when the unit would be reported as incomplete, and never when it would compile.

The verdict of Lua does not depend on the name (`Lua.Interpreter.engine_sameVerdict`).  The name
stands in the message of a failure, but whether a source is incomplete is read off the end of
that message.
-/

namespace LuaShell

namespace Engine

variable {ε χ : Type}

/-- Under two chunk names the same sources compile, and the same ones are beginnings of chunks. -/
def SameVerdict (E : Engine ε χ) (name name' : String) : Prop :=
  ∀ source, (E.compile source name).isOk = (E.compile source name').isOk ∧
    isIncomplete (E.compile source name) = isIncomplete (E.compile source name')

theorem isOk_eq_false_of_isIncomplete {answer : Except EngineError χ}
    (hincomplete : isIncomplete answer = true) : answer.isOk = false := by
  cases answer with
  | ok chunk => cases hincomplete
  | error e => rfl

variable {E : Engine ε χ} {origin : String}

/-- Whether more input is asked for is whether the unit is incomplete. -/
theorem needsMoreInput_eq (hverdict : E.SameVerdict "=?" ("=" ++ origin)) (source : String) :
    E.needsMoreInput source = isIncomplete (E.compileUnit source origin true) := by
  have hexpression := (hverdict (asExpression source)).1
  have hsource := (hverdict source).2
  unfold needsMoreInput compileUnit
  rw [if_pos rfl]
  -- As an expression the source compiles under both names or under none.
  cases hasked : E.compile (asExpression source) "=?" <;>
    cases hrun : E.compile (asExpression source) ("=" ++ origin) <;>
    simp only [hasked, hrun, Except.isOk, Except.toBool, Bool.true_eq_false,
      Bool.false_eq_true] at hexpression ⊢
  · exact hsource
  · rfl

/-- A text that more input is asked for compiles neither as an expression nor as it stands. -/
theorem isOk_compile_of_needsMoreInput (hverdict : E.SameVerdict "=?" ("=" ++ origin))
    {source : String} (hmore : E.needsMoreInput source = true) :
    (E.compile (asExpression source) ("=" ++ origin)).isOk = false ∧
      (E.compile source ("=" ++ origin)).isOk = false := by
  rw [← (hverdict (asExpression source)).1, ← (hverdict source).1]
  unfold needsMoreInput at hmore
  cases hexpression : E.compile (asExpression source) "=?" with
  | ok chunk =>
      rw [hexpression] at hmore
      cases hmore
  | error e =>
      rw [hexpression] at hmore
      exact ⟨rfl, isOk_eq_false_of_isIncomplete hmore⟩

end Engine

namespace Lua.Interpreter

/-- Whether a text ends in some bytes is decided behind any byte that is none of them. -/
theorem isSuffixOf_append_cons {ending : List UInt8} {b : UInt8} (hb : b ∉ ending)
    (before after : List UInt8) :
    ending.isSuffixOf (before ++ b :: after) = ending.isSuffixOf after := by
  rw [Bool.eq_iff_iff, List.isSuffixOf_iff_suffix, List.isSuffixOf_iff_suffix]
  constructor
  · rintro ⟨rest, hrest⟩
    rcases List.append_eq_append_iff.mp hrest with ⟨piece, -, hending⟩ | ⟨piece, -, hafter⟩
    · rw [hending] at hb
      simp at hb
    · -- What stands before the ending reaches up to the byte at least.
      cases piece with
      | nil =>
          rw [List.nil_append] at hafter
          exact absurd (hafter ▸ List.mem_cons_self) hb
      | cons c piece => exact ⟨piece, (List.cons.inj hafter).2.symm⟩
  · rintro ⟨rest, rfl⟩
    exact ⟨before ++ b :: rest, by simp⟩

/-- The place that a message begins with does not decide how it ends. -/
theorem isIncomplete_atLine (shown text : ByteArray) (line : Nat) :
    isIncomplete (shown ++ s!":{line}: ".toUTF8 ++ text) = isIncomplete text := by
  have hplace : (s!":{line}: ".toUTF8).data.toList =
      (s!":{line}:".toUTF8).data.toList ++ [32] := by
    have hspace : (": ".toUTF8).data.toList = (":".toUTF8).data.toList ++ [32] := by decide
    simpa [toString] using hspace
  have hmessage : (shown ++ s!":{line}: ".toUTF8 ++ text).data.toList =
      shown.data.toList ++ (s!":{line}:".toUTF8).data.toList ++ 32 :: text.data.toList := by
    rw [ByteArray.data_append, ByteArray.data_append, Array.toList_append, Array.toList_append,
      hplace]
    simp
  simp only [isIncomplete]
  rw [hmessage, isSuffixOf_append_cons (by decide), isSuffixOf_append_cons (by decide)]

/-- The verdict of Lua on a source does not depend on the name of the chunk. -/
theorem engine_sameVerdict (dispatch : Dispatch) {name name' : String}
    (hname : zeroAt? name = none) (hname' : zeroAt? name' = none) :
    (engine dispatch).SameVerdict name name' := by
  intro source
  show (compile source name).isOk = (compile source name').isOk ∧
    Engine.isIncomplete (compile source name) = Engine.isIncomplete (compile source name')
  unfold compile
  rw [hname, hname']
  unfold Chunk.compile
  rcases readChunk source.toUTF8.data.toList 0 with (⟨text, line⟩ | _) | p
  · simp only [Engine.isIncomplete, isIncomplete_atLine]
    exact ⟨rfl, trivial⟩
  · exact ⟨rfl, rfl⟩
  · exact ⟨rfl, rfl⟩

end Lua.Interpreter

end LuaShell
