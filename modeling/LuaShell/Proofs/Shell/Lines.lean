import LuaShell.Proofs.Script.Verdict
import LuaShell.Shell.Loop
import Mathlib

/-!
# The lines of the loop

What is typed at the prompt falls into blank lines between units, units, and perhaps lines that
are still waiting for others when the input ends.  No line is lost, read twice or moved
(`run_lines`): the loop does with all lines what is done with these pieces one after the other.
A unit is as short as it can be.  It ends with the first line after which no more input is asked
for, and until then the loop has only asked for lines.

The empty piece in front of a unit is not looked at by the loop, so nothing is said about it: a
beginning of a unit has at least one line.
-/

namespace LuaShell.Loop

variable {ε χ : Type}

/-! ## Prompts -/

/-- The host after so many lines in a row have been asked for: the first one with the working
directory as it is then, the others as lines that go on with the unit. -/
def askLines (reader : LineReader) : Nat → Host → Host
  | 0, h => h
  | 1, h => reader s!"{h.directory.current.display}> " h
  | n + 2, h => reader ">> " (askLines reader (n + 1) h)

/-! ## Units -/

/-- Lines as one source: a line feed comes after each of them. -/
def sourceOf (lines : List String) : String :=
  String.join (lines.map (· ++ "\n"))

/-- Lines that do not begin with a blank one, which would be skipped. -/
def Opens (lines : List String) : Prop :=
  ∀ first ∈ lines.head?, isBlankLine first = false

/-- Lines that more are to come to: after each of them more input is asked for. -/
structure Held (E : Engine ε χ) (lines : List String) : Prop where
  opens : Opens lines
  begun : ∀ part, part <+: lines → part ≠ [] → E.needsMoreInput (sourceOf part) = true

/-- Lines that are run as one unit: after the last of them no more input is asked for, and after
each of the others it is. -/
structure IsUnit (E : Engine ε χ) (lines : List String) : Prop where
  nonempty : lines ≠ []
  opens : Opens lines
  complete : E.needsMoreInput (sourceOf lines) = false
  begun : ∀ part, part <+: lines → part ≠ [] → part ≠ lines →
    E.needsMoreInput (sourceOf part) = true

/-- Ask for the lines of a unit and run it. -/
def runUnit (reader : LineReader) (E : Engine ε χ) (lines : List String) (m : Machine ε) :
    Except ScriptError (List Lua.Value) × Machine ε :=
  E.execute (sourceOf lines) interactiveOrigin .interactive
    (m.mapHost (askLines reader lines.length))

/-- A piece of what is typed. -/
inductive Piece where
  /-- A line that says nothing, between units. -/
  | blank (line : String)
  | unit (lines : List String)

namespace Piece

/-- The lines of a piece. -/
def lines : Piece → List String
  | blank line => [line]
  | unit lines => lines

end Piece

/-- The loop goes through some pieces from one machine to another: blank lines are only asked for,
and units are run, whether they fail or not, but none of them asks to leave. -/
inductive Passes (reader : LineReader) (E : Engine ε χ) :
    List Piece → Machine ε → Machine ε → Prop
  | nil (m : Machine ε) : Passes reader E [] m m
  | blank {line : String} {pieces : List Piece} {m m' : Machine ε}
      (hblank : isBlankLine line = true)
      (hrest : Passes reader E pieces (m.mapHost (askLines reader 1)) m') :
      Passes reader E (.blank line :: pieces) m m'
  | unit {lines : List String} {pieces : List Piece} {m m' : Machine ε}
      (hunit : IsUnit E lines)
      (hstays : ∀ code, (runUnit reader E lines m).1 ≠ .error (.exit code))
      (hrest : Passes reader E pieces (runUnit reader E lines m).2 m') :
      Passes reader E (.unit lines :: pieces) m m'

variable {reader : LineReader} {E : Engine ε χ}

theorem sourceOf_concat (lines : List String) (line : String) :
    sourceOf (lines ++ [line]) = sourceOf lines ++ line ++ "\n" := by
  simp [sourceOf, String.append_assoc]

/-- Nothing has been read of a unit exactly if there are no lines of it. -/
theorem isEmpty_sourceOf (lines : List String) : (sourceOf lines).isEmpty = lines.isEmpty := by
  induction lines using List.reverseRecOn with
  | nil => rfl
  | append_singleton lines line _ =>
      rw [sourceOf_concat, Bool.eq_iff_iff]
      simp

theorem promptFor_sourceOf_concat (h : Host) (lines : List String) (line : String) :
    promptFor h (sourceOf (lines ++ [line])) = ">> " := by
  rw [promptFor, isEmpty_sourceOf]
  simp [continuationPrompt]

/-- When some lines of a unit have been read, one more is asked for. -/
theorem beforeLine_askLines (lines : List String) (h : Host) :
    beforeLine reader (askLines reader lines.length h) (sourceOf lines) =
      askLines reader (lines.length + 1) h := by
  induction lines using List.reverseRecOn with
  | nil => rfl
  | append_singleton lines line _ =>
      rw [beforeLine, promptFor_sourceOf_concat, List.length_append, List.length_singleton]
      rfl

/-! ## Single lines -/

/-- What a line leads to that is not skipped: it is kept, or it completes a unit and that is
run. -/
theorem run_line {lines : List String} {line : String} (hopens : Opens (lines ++ [line]))
    (rest : List Line) (m : Machine ε) :
    run reader E (.text line :: rest) (sourceOf lines) (m.mapHost (askLines reader lines.length)) =
      if E.needsMoreInput (sourceOf (lines ++ [line])) then
        run reader E rest (sourceOf (lines ++ [line]))
          (m.mapHost (askLines reader (lines ++ [line]).length))
      else match runUnit reader E (lines ++ [line]) m with
        | (.error (.exit code), m') => (.ok (some code), m')
        | (_, m') => run reader E rest "" m' := by
  have hread : ((sourceOf lines).isEmpty && isBlankLine line) = false := by
    rw [isEmpty_sourceOf, Bool.and_eq_false_imp]
    intro hempty
    rw [List.isEmpty_iff.mp hempty] at hopens
    exact hopens line rfl
  have hasked : (m.mapHost (askLines reader lines.length)).mapHost
      (beforeLine reader · (sourceOf lines)) =
        m.mapHost (askLines reader (lines ++ [line]).length) := by
    simp only [Machine.mapHost, beforeLine_askLines, List.length_append, List.length_singleton]
  rw [run]
  simp only [hread, Bool.false_eq_true, if_false, hasked, ← sourceOf_concat]
  rfl

/-- A blank line between units is only asked for. -/
theorem run_blank {line : String} (hblank : isBlankLine line = true) (rest : List Line)
    (m : Machine ε) :
    run reader E (.text line :: rest) "" m =
      run reader E rest "" (m.mapHost (askLines reader 1)) := by
  rw [run]
  simp only [hblank, Bool.and_true, show "".isEmpty = true from rfl, if_true]
  rfl

/-! ## Units and what is left -/

theorem Opens.of_prefix {part lines : List String} (hopens : Opens lines)
    (hpart : part <+: lines) : Opens part := by
  obtain ⟨rest, rfl⟩ := hpart
  intro first hfirst
  refine hopens first ?_
  rw [List.head?_append, Option.mem_def.mp hfirst]
  rfl

theorem Held.of_prefix {part lines : List String} (hheld : Held E lines) (hpart : part <+: lines) :
    Held E part :=
  ⟨hheld.opens.of_prefix hpart, fun piece hpiece => hheld.begun piece (hpiece.trans hpart)⟩

/-- One line more is held if the lines still need another one. -/
theorem Held.concat {lines : List String} {line : String} (hheld : Held E lines)
    (hopens : Opens (lines ++ [line]))
    (hmore : E.needsMoreInput (sourceOf (lines ++ [line])) = true) : Held E (lines ++ [line]) := by
  refine ⟨hopens, fun part hpart hne => ?_⟩
  rcases List.prefix_concat_iff.mp hpart with rfl | hbefore
  · exact hmore
  · exact hheld.begun part hbefore hne

/-- A unit is lines that are held and the line that completes them. -/
theorem isUnit_concat_iff {lines : List String} {line : String} :
    IsUnit E (lines ++ [line]) ↔ Held E lines ∧ Opens (lines ++ [line]) ∧
      E.needsMoreInput (sourceOf (lines ++ [line])) = false := by
  constructor
  · intro hunit
    refine ⟨⟨hunit.opens.of_prefix (List.prefix_append _ _), fun part hpart hne => ?_⟩,
      hunit.opens, hunit.complete⟩
    refine hunit.begun part (hpart.trans (List.prefix_append _ _)) hne ?_
    rintro rfl
    simpa using hpart.length_le
  · rintro ⟨hheld, hopens, hcomplete⟩
    refine ⟨by simp, hopens, hcomplete, fun part hpart hne hproper => ?_⟩
    exact hheld.begun part ((List.prefix_concat_iff.mp hpart).resolve_left hproper) hne

/-- Lines that are held are read and nothing is run. -/
theorem run_held {lines : List String} (hheld : Held E lines) (rest : List Line) (m : Machine ε) :
    run reader E (lines.map .text ++ rest) "" m =
      run reader E rest (sourceOf lines) (m.mapHost (askLines reader lines.length)) := by
  -- Line by line from the last one, since what is asked for depends on how many came before.
  induction lines using List.reverseRecOn generalizing rest with
  | nil => rfl
  | append_singleton lines line ih =>
      have hmore : E.needsMoreInput (sourceOf (lines ++ [line])) = true :=
        hheld.begun _ (List.prefix_refl _) (by simp)
      rw [List.map_append, List.append_assoc, ih (hheld.of_prefix (List.prefix_append _ _))]
      exact (run_line hheld.opens rest m).trans (if_pos hmore)

/-- A unit is run as a whole; then the loop ends, or goes on as from the beginning. -/
theorem run_unit {unit : List String} (hunit : IsUnit E unit) (rest : List Line) (m : Machine ε) :
    run reader E (unit.map .text ++ rest) "" m =
      match runUnit reader E unit m with
      | (.error (.exit code), m') => (.ok (some code), m')
      | (_, m') => run reader E rest "" m' := by
  obtain ⟨lines, line, rfl⟩ := (List.eq_nil_or_concat' unit).resolve_left hunit.nonempty
  obtain ⟨hheld, hopens, hcomplete⟩ := isUnit_concat_iff.mp hunit
  rw [List.map_append, List.append_assoc, run_held hheld]
  exact (run_line hopens rest m).trans (if_neg (by simp [hcomplete]))

/-- Lines that are held at the end of the input are not run. -/
theorem run_pending {pending : List String} (hheld : Held E pending) (m : Machine ε) :
    run reader E (pending.map .text) "" m =
      (.ok none, m.mapHost (askLines reader (pending.length + 1))) := by
  have hrun : run reader E (pending.map .text ++ []) "" m = _ := run_held hheld [] m
  rw [List.append_nil] at hrun
  rw [hrun, run]
  simp only [Machine.mapHost, beforeLine_askLines]

/-- After pieces that are gone through the loop goes on as from the beginning. -/
theorem run_passes {pieces : List Piece} {m m' : Machine ε} (hpasses : Passes reader E pieces m m')
    (rest : List Line) :
    run reader E ((pieces.flatMap Piece.lines).map .text ++ rest) "" m =
      run reader E rest "" m' := by
  induction hpasses with
  | nil => rfl
  | blank hblank _ ih => exact (run_blank hblank _ _).trans ih
  | @unit lines pieces m m' hunit hstays _ ih =>
      rw [List.flatMap_cons, List.map_append, List.append_assoc, Piece.lines, run_unit hunit]
      rcases hresult : runUnit reader E lines m with ⟨answer, after⟩
      rw [hresult] at hstays ih
      rcases answer with (d | code) | values
      · exact ih
      · exact absurd rfl (hstays code)
      · exact ih

/-- Lines that go on with what is held are held too, or they complete a unit. -/
theorem held_or_unit {held : List String} (hheld : Held E held) {lines : List String}
    (hopens : Opens (held ++ lines)) :
    Held E (held ++ lines) ∨ ∃ unit rest, held ++ lines = unit ++ rest ∧ IsUnit E unit := by
  induction lines generalizing held with
  | nil =>
      rw [List.append_nil]
      exact Or.inl hheld
  | cons line lines ih =>
      -- The next line either leaves the lines held, or it is the last one of a unit.
      rw [List.append_cons] at hopens ⊢
      have hopens' : Opens (held ++ [line]) := hopens.of_prefix (List.prefix_append _ _)
      cases hmore : E.needsMoreInput (sourceOf (held ++ [line])) with
      | true => exact ih (hheld.concat hopens' hmore) hopens
      | false => exact Or.inr ⟨_, lines, rfl, isUnit_concat_iff.mpr ⟨hheld, hopens', hmore⟩⟩

/-- Lines are gone through up to those that are held at the end, or up to a unit that asks to
leave. -/
theorem exists_passes (reader : LineReader) (texts : List String) (m : Machine ε) :
    ∃ pieces m' rest, Passes reader E pieces m m' ∧ texts = pieces.flatMap Piece.lines ++ rest ∧
      (Held E rest ∨ ∃ unit unread code, rest = unit ++ unread ∧ IsUnit E unit ∧
        (runUnit reader E unit m').1 = .error (.exit code)) := by
  induction hlength : texts.length using Nat.strong_induction_on generalizing texts m with
  | _ n ih =>
      subst hlength
      cases texts with
      | nil =>
          exact ⟨[], m, [], .nil m, rfl, Or.inl ⟨by simp [Opens], by simp⟩⟩
      | cons first texts =>
          cases hblank : isBlankLine first with
          | true =>
              -- It says nothing, since nothing of a unit has been read.
              obtain ⟨pieces, m', rest, hpasses, rfl, hrest⟩ := ih _ (by simp) texts _ rfl
              exact ⟨.blank first :: pieces, m', rest, .blank hblank hpasses, rfl, hrest⟩
          | false =>
              have hopens : Opens ([] ++ first :: texts) := by
                rintro line ⟨⟩
                exact hblank
              rcases held_or_unit (E := E) ⟨by simp [Opens], by simp⟩ hopens with
                hheld | ⟨unit, rest, htexts, hunit⟩
              · exact ⟨[], m, _, .nil m, rfl, Or.inl hheld⟩
              rw [List.nil_append] at htexts
              rw [htexts]
              by_cases hleaves : ∃ code, (runUnit reader E unit m).1 = .error (.exit code)
              · obtain ⟨code, hcode⟩ := hleaves
                exact ⟨[], m, unit ++ rest, .nil m, rfl,
                  Or.inr ⟨unit, rest, code, rfl, hunit, hcode⟩⟩
              · -- A unit takes one line at least, so fewer lines are left.
                have hshorter : rest.length < (first :: texts).length := by
                  have := List.length_pos_iff.mpr hunit.nonempty
                  rw [htexts, List.length_append]
                  omega
                obtain ⟨pieces, m', rest', hpasses, rfl, hrest⟩ := ih _ hshorter rest _ rfl
                exact ⟨.unit unit :: pieces, m', rest',
                  .unit hunit (not_exists.mp hleaves) hpasses, by simp [Piece.lines], hrest⟩

/-- Whatever the line reader does with its prompts, the lines of an input are gone through in order
as blank lines and units, none of which asks to leave.  Then either lines are left that are held,
and the loop ends with the input, having asked for one line more; or the next lines are a unit that
asks to leave, and the loop ends with its code on the machine that it has left, whatever lines come
behind it.

When verdicts on texts do not depend on the chunk name, no unit is an incomplete chunk, and lines
after which more input is asked for compile neither as an expression nor as they stand. -/
theorem run_lines (reader : LineReader) (hverdict : E.SameVerdict "=?" ("=" ++ interactiveOrigin))
    (texts : List String) (m : Machine ε) :
    (∃ pieces m', Passes reader E pieces m m' ∧
      ((∃ pending, texts = pieces.flatMap Piece.lines ++ pending ∧ Held E pending ∧
          run reader E (texts.map .text) "" m =
            (.ok none, m'.mapHost (askLines reader (pending.length + 1)))) ∨
        ∃ unit unread code after, texts = pieces.flatMap Piece.lines ++ unit ++ unread ∧
          IsUnit E unit ∧ runUnit reader E unit m' = (.error (.exit code), after) ∧
          ∀ unread' : List Line,
            run reader E ((pieces.flatMap Piece.lines ++ unit).map .text ++ unread') "" m =
              (.ok (some code), after))) ∧
    (∀ unit, IsUnit E unit →
      Engine.isIncomplete (E.compileUnit (sourceOf unit) interactiveOrigin true) = false) ∧
    ∀ lines, E.needsMoreInput (sourceOf lines) = true →
      (E.compile (Engine.asExpression (sourceOf lines)) ("=" ++ interactiveOrigin)).isOk = false ∧
        (E.compile (sourceOf lines) ("=" ++ interactiveOrigin)).isOk = false := by
  refine ⟨?_, fun unit hunit => ?_, fun lines => Engine.isOk_compile_of_needsMoreInput hverdict⟩
  · obtain ⟨pieces, m', rest, hpasses, rfl, hheld | hleaves⟩ :=
      exists_passes reader (E := E) texts m
    · refine ⟨pieces, m', hpasses, Or.inl ⟨rest, rfl, hheld, ?_⟩⟩
      rw [List.map_append, run_passes hpasses, run_pending hheld]
    · obtain ⟨unit, unread, code, rfl, hunit, hcode⟩ := hleaves
      refine ⟨pieces, m', hpasses, Or.inr ⟨unit, unread, code, (runUnit reader E unit m').2,
        by rw [List.append_assoc], hunit, Prod.ext hcode rfl, fun unread' => ?_⟩⟩
      rw [List.map_append, List.append_assoc, run_passes hpasses, run_unit hunit,
        show runUnit reader E unit m' = (.error (.exit code), (runUnit reader E unit m').2) from
          Prod.ext hcode rfl]
  · rw [← Engine.needsMoreInput_eq hverdict]
    exact hunit.complete

/-- A blank line, a unit of three lines with a blank one among them, a unit that fails, and one
that asks to leave; a chunk has no more opening brackets than closing ones.  The line behind is
not read.  On a plain terminal the prompts of the other six lines are what is written. -/
theorem run_lines_until_exit :
    let E : Engine Nat String :=
      { Engine.idle with
        compile := fun source _ =>
          if source.toList.count '(' ≤ source.toList.count ')' then .ok source
          else .error (.compile "unfinished" true)
        run := fun chunk m =>
          if 'q' ∈ chunk.toList then (.error (.callback "" (.command (.exit 3))), m)
          else if '!' ∈ chunk.toList then (.error (.runtime "boom"), m)
          else (.ok [], { m with engine := m.engine + 1 }) }
    let h : Host := ⟨.empty, [("TERM", "dumb")], ⟨Path.ofString "/", none⟩, .plain, .unsupported,
      .off, [], .empty, .empty, #[], 0, 0⟩
    let texts := [" ", "f(", "", ")", "!", "q", "never("]
    E.SameVerdict "=?" ("=" ++ interactiveOrigin) ∧
      (∃ pieces m' unit unread after, Passes piped E pieces ⟨h, 0⟩ m' ∧
        texts = pieces.flatMap Piece.lines ++ unit ++ unread ∧
        runUnit piped E unit m' = (.error (.exit 3), after) ∧
        run piped E (texts.map .text) "" ⟨h, 0⟩ = (.ok (some 3), after) ∧
        after.host.output = "/> /> >> >> /> /> ".toUTF8) ∧
      (E.compile (sourceOf ["f(", ""]) ("=" ++ interactiveOrigin)).isOk = false := by
  intro E h texts
  have hverdict : E.SameVerdict "=?" ("=" ++ interactiveOrigin) := fun source => ⟨rfl, rfl⟩
  have hanswer : (run piped E (texts.map .text) "" ⟨h, 0⟩).1 = .ok (some 3) := by rfl
  have hprompts : (run piped E (texts.map .text) "" ⟨h, 0⟩).2.host.output =
      "/> /> >> >> /> /> ".toUTF8 := by decide +kernel
  obtain ⟨⟨pieces, m', hpasses, hends | hleaves⟩, -, hheld⟩ :=
    run_lines piped hverdict texts ⟨h, 0⟩
  · obtain ⟨pending, -, -, hrun⟩ := hends
    rw [hrun] at hanswer
    cases hanswer
  · obtain ⟨unit, unread, code, after, htexts, -, hunit, hrun⟩ := hleaves
    have hread := hrun (unread.map .text)
    rw [← List.map_append, ← htexts] at hread
    rw [hread] at hanswer hprompts
    cases hanswer
    exact ⟨hverdict, ⟨pieces, m', unit, unread, after, hpasses, htexts, hunit, hread, hprompts⟩,
      (hheld ["f(", ""] (by cbv)).2⟩

end LuaShell.Loop
