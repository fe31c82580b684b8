import LuaShell.Proofs.Command.FileContract
import Mathlib

/-!
# Parameters of a program

A table of parameters is gone through in an order that is up to the engine.  The arguments that it
stands for do not depend on that order (`parameters_any_order`): the values of the integer keys
come first, sorted by key and each as it is, and then the words of the other keys and of their
values, sorted by the texts of both.  The words come from cutting one long line, and as there is a
blank between any two texts on it, no word is made of two of them
(`splitCommandLine_formatParameters`).
-/

namespace LuaShell

open Lua (Value)

/-! ## Words -/

namespace Text

/-- Words are what stands between blanks, without what is empty. -/
theorem words_eq_splitOnP (cs : List Char) :
    words cs = (cs.splitOnP isBlank).filter (· ≠ []) := by
  fun_induction words cs with
  | case1 => rfl
  | case2 c cs hblank ih => simp [List.splitOnP_cons_eq_if_modifyHead, hblank, ih]
  | case3 c hblank => simp [List.splitOnP_cons_eq_if_modifyHead, hblank]
  | case4 c hblank d rest hnext ih =>
      simpa [List.splitOnP_cons_eq_if_modifyHead, hblank, hnext] using ih
  -- What stands before the next blank is longer by one character, and empty in neither case.
  | case5 c hblank d rest hnext hnone ih =>
      obtain ⟨w', ws', hsplit⟩ := List.exists_cons_of_ne_nil (List.splitOnP_ne_nil isBlank rest)
      rw [hnone] at ih
      simp [List.splitOnP_cons_eq_if_modifyHead, hnext, hsplit] at ih
  | case6 c hblank d rest hnext w ws hsome ih =>
      obtain ⟨w', ws', hsplit⟩ := List.exists_cons_of_ne_nil (List.splitOnP_ne_nil isBlank rest)
      have hsplit' : (d :: rest).splitOnP isBlank = (d :: w') :: ws' := by
        simp [List.splitOnP_cons_eq_if_modifyHead, hnext, hsplit]
      rw [hsome, hsplit'] at ih
      obtain ⟨rfl, rfl⟩ : w = d :: w' ∧ ws = ws'.filter (· ≠ []) := by simpa using ih
      rw [hsome, List.splitOnP_cons_eq_if_modifyHead, if_neg hblank, hsplit']
      simp

/-- A blank belongs to no word, so the words before it and those behind it are all. -/
theorem words_append_cons {b : Char} (hblank : isBlank b = true) (before after : List Char) :
    words (before ++ b :: after) = words before ++ words after := by
  simp only [words_eq_splitOnP, List.splitOnP_append_cons before after hblank, List.filter_append]

end Text

namespace Request

/-- The words of a named parameter: those of its key behind the dashes, and those of its value. -/
def namedWords (p : String × String) : List String :=
  splitCommandLine ((if p.1.length = 1 then "-" else "--") ++ p.1) ++ splitCommandLine p.2

theorem toList_formatParameters_cons (p : String × String) (ps : List (String × String)) :
    (formatParameters (p :: ps)).toList =
      ' ' :: ((dashes p.1 ++ p.1).toList ++ ' ' :: (p.2.toList ++ (formatParameters ps).toList)) := by
  have htext : ∀ s : String, toString s = s := fun _ => rfl
  simp [formatParameters, String.join_cons, htext]

/-- What named parameters begin with is a blank. -/
theorem words_append_formatParameters (cs : List Char) (ps : List (String × String)) :
    Text.words (cs ++ (formatParameters ps).toList) =
      Text.words cs ++ Text.words (formatParameters ps).toList := by
  cases ps with
  | nil => simp [formatParameters, Text.words]
  | cons p ps =>
      have hblank : Text.isBlank ' ' = true := by decide
      rw [toList_formatParameters_cons, Text.words_append_cons hblank]
      exact congrArg _ (Text.words_append_cons hblank [] _).symm

/-- The words of the line are those of its keys and values, one after the other. -/
theorem splitCommandLine_formatParameters (named : List (String × String)) :
    splitCommandLine (formatParameters named) = named.flatMap namedWords := by
  have hblank : Text.isBlank ' ' = true := by decide
  induction named with
  | nil => simp [formatParameters, splitCommandLine, Text.words]
  | cons p ps ih =>
      have hline : Text.words (formatParameters (p :: ps)).toList =
          Text.words (dashes p.1 ++ p.1).toList ++
            (Text.words p.2.toList ++ Text.words (formatParameters ps).toList) := by
        rw [toList_formatParameters_cons, ← List.nil_append (' ' :: _),
          Text.words_append_cons hblank, Text.words_append_cons hblank,
          words_append_formatParameters, Text.words, List.nil_append]
      rw [splitCommandLine, hline, List.map_append, List.map_append, List.flatMap_cons, ← ih]
      exact (List.append_assoc _ _ _).symm

end Request

/-! ## What the entries of a table say -/

namespace RunCommand

open Arguments (textOf? text_eq_ok_iff)

/-- The integer that a key is. -/
def integerKey? : Value → Option Int
  | .int i => some i.toInt
  | _ => none

@[simp] theorem integerKey?_int (i : Int64) : integerKey? (.int i) = some i.toInt := rfl

@[simp] theorem integerKey?_ofString (text : String) : integerKey? (.ofString text) = none := rfl

/-- Neither the key nor the value is of no use. -/
def Entry.Usable (entry : Value × Value) : Prop :=
  ¬Unusable (some entry.1) ∧ ¬Unusable (some entry.2)

/-- What an entry with an integer key says: the key and the text of the value. -/
def positional? (entry : Value × Value) : Option (Int × String) :=
  (integerKey? entry.1).bind fun i => (textOf? entry.2).map (i, ·)

/-- What an entry with any other key says: the texts of the key and of the value. -/
def named? (entry : Value × Value) : Option (String × String) :=
  match integerKey? entry.1 with
  | some _ => none
  | none => (textOf? entry.1).bind fun name => (textOf? entry.2).map (name, ·)

theorem Entry.usable_iff {key value : Value} :
    Entry.Usable (key, value) ↔ ∃ name text, textOf? key = some name ∧ textOf? value = some text := by
  simp only [Entry.Usable, ← Arguments.textOf?_eq_none_iff, ← ne_eq, Option.ne_none_iff_exists']
  exact ⟨fun ⟨⟨name, hname⟩, text, htext⟩ => ⟨name, text, hname, htext⟩,
    fun ⟨name, text, hname, htext⟩ => ⟨⟨name, hname⟩, text, htext⟩⟩

/-- An entry that is of use adds what it says. -/
theorem parameterTexts_cons_of_usable (a : Arguments) {entry : Value × Value}
    (husable : Entry.Usable entry) (rest : List (Value × Value)) :
    parameterTexts a (entry :: rest) = (parameterTexts a rest).map fun texts =>
      ((positional? entry).toList ++ texts.1, (named? entry).toList ++ texts.2) := by
  obtain ⟨key, value⟩ := entry
  obtain ⟨name, text, hname, htext⟩ := Entry.usable_iff.mp husable
  have hvalue : a.text value "params" = .ok text := text_eq_ok_iff.mpr htext
  cases key with
  | int i => simp [parameterTexts, hvalue, positional?, named?, integerKey?, htext]
  | _ =>
      simp [parameterTexts, hvalue, text_eq_ok_iff.mpr hname, positional?, named?, integerKey?,
        hname, htext]

/-- An entry that is of no use is the end of it, and so is one further on. -/
theorem parameterTexts_cons_of_not_usable (a : Arguments) {entry : Value × Value}
    (hunusable : ¬Entry.Usable entry) (rest : List (Value × Value)) :
    ∃ e, parameterTexts a (entry :: rest) = .error e := by
  obtain ⟨key, value⟩ := entry
  rw [Entry.usable_iff] at hunusable
  -- The value is looked at before the key.
  cases hvalue : a.text value "params" with
  | error e => exact ⟨e, by simp only [parameterTexts, hvalue]⟩
  | ok text =>
      have hkey : ∀ name, textOf? key ≠ some name := fun name hname =>
        hunusable ⟨name, text, hname, text_eq_ok_iff.mp hvalue⟩
      obtain ⟨e, he⟩ : ∃ e, a.text key "params" = .error e := by
        cases hname : a.text key "params" with
        | error e => exact ⟨e, rfl⟩
        | ok name => exact absurd (text_eq_ok_iff.mp hname) (hkey name)
      cases key with
      | int i => exact absurd rfl (hkey (Value.intText i))
      | _ => exact ⟨e, by simp only [parameterTexts, hvalue, he]⟩

theorem parameterTexts_of_usable (a : Arguments) {entries : List (Value × Value)}
    (husable : ∀ entry ∈ entries, Entry.Usable entry) :
    parameterTexts a entries = .ok (entries.filterMap positional?, entries.filterMap named?) := by
  induction entries with
  | nil => rfl
  | cons entry rest ih =>
      obtain ⟨hfirst, hrest⟩ := List.forall_mem_cons.mp husable
      rw [parameterTexts_cons_of_usable a hfirst, ih hrest]
      cases hpositional : positional? entry <;> cases hnamed : named? entry <;>
        simp [hpositional, hnamed, Except.map]

theorem parameterTexts_of_not_usable (a : Arguments) {entries : List (Value × Value)}
    {entry : Value × Value} (hentry : entry ∈ entries) (hunusable : ¬Entry.Usable entry) :
    ∃ e, parameterTexts a entries = .error e := by
  induction entries with
  | nil => cases hentry
  | cons first rest ih =>
      by_cases hfirst : Entry.Usable first
      · obtain rfl | hrest := List.mem_cons.mp hentry
        · exact absurd hfirst hunusable
        · obtain ⟨e, he⟩ := ih hrest
          exact ⟨e, by rw [parameterTexts_cons_of_usable a hfirst, he]; rfl⟩
      · exact parameterTexts_cons_of_not_usable a hfirst rest

/-! ## The order of the arguments -/

theorem namedBefore_iff {x y : String × String} : namedBefore x y = true ↔ toLex x ≤ toLex y := by
  simp [namedBefore, Prod.Lex.toLex_le_toLex]

/-- Sorted by key and then by value, texts are in one order only. -/
theorem pairwise_mergeSort_named (named : List (String × String)) :
    (named.mergeSort namedBefore).Pairwise fun x y => toLex x ≤ toLex y := by
  have hsorted := @List.pairwise_mergeSort _ namedBefore
    (fun x y z hxy hyz => namedBefore_iff.mpr
      ((namedBefore_iff.mp hxy).trans (namedBefore_iff.mp hyz)))
    (fun x y => by simpa [namedBefore_iff] using le_total (toLex x) (toLex y)) named
  exact hsorted.imp namedBefore_iff.mp

/-- Sorted by keys that are all different, each is below those behind it. -/
theorem pairwise_mergeSort_positional {positional : List (Int × String)}
    (hkeys : (positional.map (·.1)).Nodup) :
    (positional.mergeSort fun x y => x.1 ≤ y.1).Pairwise fun x y => x.1 < y.1 := by
  have hle := @List.pairwise_mergeSort (Int × String) (fun x y => x.1 ≤ y.1)
    (fun x y z hxy hyz => by simp only [decide_eq_true_eq] at *; omega)
    (fun x y => by simp only [Bool.or_eq_true, decide_eq_true_eq]; omega) positional
  have hne : (positional.mergeSort fun x y => x.1 ≤ y.1).Pairwise fun x y => x.1 ≠ y.1 := by
    have hperm := (List.mergeSort_perm positional fun x y => x.1 ≤ y.1).map Prod.fst
    exact List.pairwise_map.mp (hperm.nodup_iff.mpr hkeys)
  refine (hle.and hne).imp fun h => ?_
  have := of_decide_eq_true h.1
  omega

/-- The keys of the positional arguments are integer keys of the table. -/
theorem sublist_positional (entries : List (Value × Value)) :
    ((entries.filterMap positional?).map Prod.fst).Sublist
      (entries.filterMap fun entry => integerKey? entry.1) := by
  induction entries with
  | nil => exact .slnil
  | cons entry rest ih =>
      cases hkey : integerKey? entry.1 with
      | none => simpa [positional?, hkey] using ih
      | some i =>
          cases htext : textOf? entry.2 with
          | none => simpa [positional?, hkey, htext] using ih.trans (List.sublist_cons_self i _)
          | some text => simpa [positional?, hkey, htext] using ih.cons_cons i

/-- For a table whose entries are all of use there is one vector of arguments, in whatever order
the engine goes through them: the values of the integer keys, sorted by key and each as it is, and
then the words of the other keys and their values, sorted by the texts of both.  With an entry of no
use any order raises. -/
theorem parameters_any_order (a : Arguments) (entries : List (Value × Value))
    (hkeys : (entries.filterMap fun entry => integerKey? entry.1).Nodup) :
    ((∀ entry ∈ entries, Entry.Usable entry) →
      ∃ (positional : List (Int × String)) (named : List (String × String)),
      positional.Perm (entries.filterMap positional?) ∧
      (positional.Pairwise fun x y => x.1 < y.1) ∧
      named.Perm (entries.filterMap named?) ∧
      (named.Pairwise fun x y => toLex x ≤ toLex y) ∧
      ∀ order : List (Value × Value), order.Perm entries →
        parameters a order =
          .ok (positional.map (·.2) ++ named.flatMap Request.namedWords)) ∧
    ((∃ entry ∈ entries, ¬Entry.Usable entry) →
      ∀ order : List (Value × Value), order.Perm entries →
        ∃ e, parameters a order = .error e) := by
  constructor
  · intro husable
    have hpositional := pairwise_mergeSort_positional (hkeys.sublist (sublist_positional entries))
    refine ⟨_, _, List.mergeSort_perm _ _, hpositional,
      List.mergeSort_perm _ _, pairwise_mergeSort_named _, fun order hperm => ?_⟩
    have htexts := parameterTexts_of_usable a fun entry hentry =>
      husable entry (hperm.mem_iff.mp hentry)
    -- Both orders are sorted into lists with the same members, of which there is only one.
    have hpositions : (order.filterMap positional?).mergeSort (fun x y => x.1 ≤ y.1) =
        (entries.filterMap positional?).mergeSort fun x y => x.1 ≤ y.1 := by
      have hkeys' := (hperm.filterMap fun entry => integerKey? entry.1).nodup_iff.mpr hkeys
      refine List.Perm.eq_of_pairwise (fun x y _ _ hlt hgt => absurd hlt (lt_asymm hgt))
        (pairwise_mergeSort_positional (hkeys'.sublist (sublist_positional order))) hpositional ?_
      exact (List.mergeSort_perm _ _).trans
        ((hperm.filterMap positional?).trans (List.mergeSort_perm _ _).symm)
    have hnames : (order.filterMap named?).mergeSort namedBefore =
        (entries.filterMap named?).mergeSort namedBefore := by
      refine List.Perm.eq_of_pairwise (fun x y _ _ hle hge => toLex.injective (le_antisymm hle hge))
        (pairwise_mergeSort_named _) (pairwise_mergeSort_named _) ?_
      exact (List.mergeSort_perm _ _).trans
        ((hperm.filterMap named?).trans (List.mergeSort_perm _ _).symm)
    rw [parameters, htexts, ← hpositions, ← hnames]
    simp only [Request.splitCommandLine_formatParameters]
  · rintro ⟨entry, hentry, hunusable⟩ order hperm
    obtain ⟨e, he⟩ := parameterTexts_of_not_usable a (hperm.mem_iff.mpr hentry) hunusable
    exact ⟨e, by rw [parameters, he]⟩

/-- A table with two positional arguments, one empty and one with a blank, and two named ones. -/
theorem parameters_any_order_four :
    let table : List (Value × Value) :=
      [(.ofString "name", .ofString "a  b"), (.int 10, .ofString "one two"), (.ofString "n", .int 5),
        (.int 2, .ofString "")]
    (table.filterMap fun entry => integerKey? entry.1).Nodup ∧
      (∀ entry ∈ table, Entry.Usable entry) ∧
      ∀ order : List (Value × Value), order.Perm table →
        parameters ⟨"runSync", []⟩ order =
          .ok ["", "one two", "-n", "5", "--name", "a", "b"] := by
  intro table
  have hfive : Value.intText 5 = "5" := by decide
  have hpositional : table.filterMap positional? = [(10, "one two"), (2, "")] := by
    simp [table, List.filterMap_cons, positional?]
  have hnamed : table.filterMap named? = [("name", "a  b"), ("n", "5")] := by
    simp [table, List.filterMap_cons, named?, hfive]
  have hkeys : (table.filterMap fun entry => integerKey? entry.1).Nodup := by
    simp [table, List.filterMap_cons]
  have husable : ∀ entry ∈ table, Entry.Usable entry := by
    simp [table, Entry.usable_iff]
  refine ⟨hkeys, husable, fun order hperm => ?_⟩
  obtain ⟨positional, named, hpositions, hsorted, hnames, hsorted', hall⟩ :=
    (parameters_any_order ⟨"runSync", []⟩ table hkeys).1 husable
  have hfirst : positional = [(2, ""), (10, "one two")] :=
    List.Perm.eq_of_pairwise (fun x y _ _ hlt hgt => absurd hlt (lt_asymm hgt)) hsorted (by decide)
      (hpositions.trans (by rw [hpositional]; decide))
  have hsecond : named = [("n", "5"), ("name", "a  b")] :=
    List.Perm.eq_of_pairwise (fun x y _ _ hle hge => toLex.injective (le_antisymm hle hge)) hsorted'
      (by decide) (hnames.trans (by rw [hnamed]; decide))
  rw [hall order hperm, hfirst, hsecond]
  exact congrArg Except.ok (by decide)

end RunCommand

end LuaShell
