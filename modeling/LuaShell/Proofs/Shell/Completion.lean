import LuaShell.Proofs.FileSystem.Slots
import LuaShell.Proofs.Text.Truncated
import LuaShell.Shell.Completion
import Mathlib

/-!
# What can stand at the cursor

A line is cut at the cursor, and what stands before the cursor is cut once more: behind the quote of
a string that is open, or else before the name that ends at the cursor.  Each candidate begins with
the text between that place and the cursor, so nothing that was typed is taken back
(`complete_contract`).  The candidates are the registered names that begin with the text, or
the entries of a directory that do, each once and in the order in which they are shown.

All cuts are made between characters (`takeBytes_append`, `dropBytes_append`), though places are
counted in bytes.  A run at the end of a text is described without the search for it (`EndsInRun`).
-/

namespace LuaShell.Completion

open LuaShell.Path (IsName)

/-! ## Places in a line -/

theorem byteLength_append (cs ds : List Char) :
    byteLength (cs ++ ds) = byteLength cs + byteLength ds := by
  induction cs with
  | nil => simp [byteLength]
  | cons c cs ih =>
      simp only [List.cons_append, byteLength, ih]
      omega

theorem byteLength_eq_byteCount (cs : List Char) : byteLength cs = Text.byteCount cs := by
  induction cs with
  | nil => rfl
  | cons c cs ih =>
      rw [byteLength, ih, Text.byteCount, Text.byteCount, List.flatMap_cons, List.length_append,
        String.length_utf8EncodeChar]

theorem byteLength_toList (text : String) : byteLength text.toList = text.utf8ByteSize := by
  rw [byteLength_eq_byteCount, Text.byteCount_toList]

/-- A text is cut where its beginning ends. -/
theorem takeBytes_append (before after : List Char) :
    takeBytes (byteLength before) (before ++ after) = before := by
  induction before with
  | nil =>
      cases after with
      | nil => rfl
      | cons c cs =>
          have hpos : 0 < c.utf8Size := c.utf8Size_pos
          simp only [List.nil_append, byteLength, takeBytes, if_neg (Nat.not_le.mpr hpos)]
  | cons c cs ih =>
      have hfits : c.utf8Size ≤ c.utf8Size + byteLength cs := Nat.le_add_right _ _
      simp only [List.cons_append, byteLength, takeBytes, if_pos hfits, Nat.add_sub_cancel_left, ih]

theorem dropBytes_append (before after : List Char) :
    dropBytes (byteLength before) (before ++ after) = after := by
  induction before with
  | nil =>
      cases after with
      | nil => rfl
      | cons c cs =>
          have hpos : 0 < c.utf8Size := c.utf8Size_pos
          simp only [List.nil_append, byteLength, dropBytes, if_neg (Nat.not_le.mpr hpos)]
  | cons c cs ih =>
      have hfits : c.utf8Size ≤ c.utf8Size + byteLength cs := Nat.le_add_right _ _
      simp only [List.cons_append, byteLength, dropBytes, if_pos hfits, Nat.add_sub_cancel_left, ih]

/-- One of the characters that open a string. -/
def IsQuote (c : Char) : Prop :=
  c = '"' ∨ c = '\''

/-- The string that is open behind a character. -/
def openedBehind (index : Nat) (opened : Option (Nat × Char)) (c : Char) : Option (Nat × Char) :=
  match opened with
  | some (start, quote) => if c = quote then none else some (start, quote)
  | none => if c = '"' || c = '\'' then some (index, c) else none

theorem openStringFrom_cons (index : Nat) (opened : Option (Nat × Char)) (c : Char)
    (cs : List Char) : openStringFrom index opened (c :: cs) =
      openStringFrom (index + c.utf8Size) (openedBehind index opened c) cs := by
  cases opened <;> rfl

/-- The quote of the string that is open has been read, and at its place. -/
def OpenedIn (read : List Char) (opened : Option (Nat × Char)) : Prop :=
  ∀ place quote, opened = some (place, quote) →
    IsQuote quote ∧ ∃ before after, read = before ++ quote :: after ∧ place = byteLength before

theorem OpenedIn.concat {read : List Char} {opened : Option (Nat × Char)}
    (hopened : OpenedIn read opened) (c : Char) :
    OpenedIn (read ++ [c]) (openedBehind (byteLength read) opened c) := by
  intro place quote hsome
  cases opened with
  | some o =>
      obtain ⟨start, quote'⟩ := o
      rw [openedBehind] at hsome
      split at hsome
      · cases hsome
      · obtain ⟨hquote, before, after, rfl, hplace⟩ := hopened place quote hsome
        exact ⟨hquote, before, after ++ [c], by simp, hplace⟩
  | none =>
      rw [openedBehind] at hsome
      split at hsome
      · next hc =>
          cases hsome
          exact ⟨by simpa [IsQuote] using hc, read, [], rfl, rfl⟩
      · cases hsome

theorem openStringFrom_eq_some {read cs : List Char} {opened : Option (Nat × Char)} {start : Nat}
    (hopened : OpenedIn read opened)
    (hstart : openStringFrom (byteLength read) opened cs = some start) :
    ∃ before quote after, IsQuote quote ∧ read ++ cs = before ++ quote :: after ∧
      start = byteLength (before ++ [quote]) := by
  induction cs generalizing read opened with
  | nil =>
      obtain ⟨⟨place, quote⟩, hsome, rfl⟩ := Option.map_eq_some_iff.mp hstart
      obtain ⟨hquote, before, after, rfl, rfl⟩ := hopened place quote hsome
      refine ⟨before, quote, after, hquote, by simp, ?_⟩
      rw [byteLength_append]
      rcases hquote with rfl | rfl <;> rfl
  | cons c cs ih =>
      have hnext : byteLength read + c.utf8Size = byteLength (read ++ [c]) := by
        rw [byteLength_append]
        rfl
      rw [openStringFrom_cons, hnext] at hstart
      rw [List.append_cons]
      exact ih (hopened.concat c) hstart

/-- A string that is open begins behind a quote. -/
theorem openStringStart?_eq_some {line : List Char} {start : Nat}
    (hstart : openStringStart? line = some start) :
    ∃ before quote after, IsQuote quote ∧ line = before ++ quote :: after ∧
      start = byteLength (before ++ [quote]) := by
  have hnone : OpenedIn [] none := fun place quote hsome => by cases hsome
  simpa using openStringFrom_eq_some hnone hstart

/-! ## Runs at the end of a text -/

/-- A text is cut before the longest run of characters of one kind at its end. -/
structure EndsInRun (kind : Char → Bool) (cs before run : List Char) : Prop where
  whole : cs = before ++ run
  run : ∀ c ∈ run, kind c = true
  longest : ∀ c, before.getLast? = some c → kind c = false

theorem endsInRun_rtakeWhile (kind : Char → Bool) (cs : List Char) :
    EndsInRun kind cs (cs.rdropWhile kind) (cs.rtakeWhile kind) := by
  refine ⟨List.rdropWhile_append_rtakeWhile.symm, fun c hc => List.mem_rtakeWhile_imp hc, ?_⟩
  intro c hc
  have hne : cs.rdropWhile kind ≠ [] := by
    intro hnil
    rw [hnil] at hc
    cases hc
  have hlast := List.rdropWhile_last_not kind cs hne
  rw [List.getLast?_eq_some_getLast hne, Option.some.injEq] at hc
  rw [← hc]
  exact Bool.eq_false_iff.mpr hlast

theorem endsInRun_lastName (line : List Char) :
    EndsInRun isNameChar line (line.rdropWhile isNameChar) (lastName line) :=
  endsInRun_rtakeWhile isNameChar line

theorem nameStart_eq (line : List Char) :
    nameStart line = byteLength (line.rdropWhile isNameChar) := by
  have hwhole := congrArg byteLength (endsInRun_lastName line).whole
  rw [byteLength_append] at hwhole
  rw [nameStart]
  omega

/-- A typed path is cut behind its last separator. -/
theorem endsInRun_splitTyped (typed : List Char) :
    EndsInRun (fun c => !isSeparator c) typed (splitTyped typed).1 (splitTyped typed).2 := by
  have hrun := endsInRun_rtakeWhile (fun c => !isSeparator c) typed
  have hcut : (splitTyped typed).1 = typed.rdropWhile fun c => !isSeparator c := by
    have hlength := congrArg List.length hrun.whole
    rw [List.length_append] at hlength
    show typed.take (typed.length - (typed.rtakeWhile fun c => !isSeparator c).length) = _
    rw [List.prefix_iff_eq_take.mp (List.rdropWhile_prefix _ typed)]
    congr 1
    omega
  rw [hcut]
  exact hrun

/-! ## Names of commands -/

section Repetitions

variable (a : String) (names : List String)

theorem eraseRepsBy_loop_eq (acc : List String) :
    List.eraseRepsBy.loop (· == ·) a names acc = acc.reverse ++ (a :: names).eraseReps := by
  induction names generalizing a acc with
  | nil => simp [List.eraseReps, List.eraseRepsBy, List.eraseRepsBy.loop]
  | cons b names ih =>
      rw [List.eraseReps, List.eraseRepsBy, List.eraseRepsBy.loop, List.eraseRepsBy.loop]
      split
      · rw [ih a acc, ih a []]
        rfl
      · rw [ih b (a :: acc), ih b [a]]
        simp

/-- Of two equal neighbours one is left out. -/
theorem eraseReps_cons_cons (b : String) :
    (a :: b :: names).eraseReps =
      if a = b then (a :: names).eraseReps else a :: (b :: names).eraseReps := by
  rw [List.eraseReps, List.eraseRepsBy, List.eraseRepsBy.loop]
  split
  · next heq => simp [eq_of_beq heq, eraseRepsBy_loop_eq]
  · next hne => simp [ne_of_beq_false hne, eraseRepsBy_loop_eq]

theorem mem_eraseReps {n : String} : n ∈ names.eraseReps ↔ n ∈ names := by
  induction names with
  | nil => rfl
  | cons a names ih =>
      cases names with
      | nil => rfl
      | cons b names =>
          rw [eraseReps_cons_cons]
          by_cases hab : a = b
          · subst hab
            simp [ih]
          · rw [if_neg hab, List.mem_cons, ih, List.mem_cons (a := n) (b := a)]

/-- Names in ascending order ascend strictly without repetitions. -/
theorem pairwise_eraseReps (hsorted : names.Pairwise (· ≤ ·)) :
    names.eraseReps.Pairwise (· < ·) := by
  induction names with
  | nil => exact .nil
  | cons a names ih =>
      cases names with
      | nil => exact List.pairwise_singleton _ _
      | cons b names =>
          obtain ⟨hle, hrest⟩ := List.pairwise_cons.mp hsorted
          have htail := ih hrest
          rw [eraseReps_cons_cons]
          by_cases hab : a = b
          · rw [if_pos hab, hab]
            exact htail
          · rw [if_neg hab, List.pairwise_cons]
            refine ⟨fun n hn => ?_, htail⟩
            have hab' : a < b := lt_of_le_of_ne (hle b List.mem_cons_self) hab
            rcases List.mem_cons.mp ((mem_eraseReps _).mp hn) with rfl | hlater
            · exact hab'
            · exact lt_of_lt_of_le hab' ((List.pairwise_cons.mp hrest).1 n hlater)

end Repetitions

theorem mem_sortedNames {names : List String} {n : String} :
    n ∈ sortedNames names ↔ n ∈ names := by
  rw [sortedNames, mem_eraseReps, List.mem_mergeSort]

theorem pairwise_sortedNames (names : List String) :
    (sortedNames names).Pairwise (· < ·) := by
  refine pairwise_eraseReps _ ?_
  have hsorted := @List.pairwise_mergeSort String (fun a b => a ≤ b)
    (fun a b c hab hbc => by simpa using le_trans (of_decide_eq_true hab) (of_decide_eq_true hbc))
    (fun a b => by simpa using le_total a b) names
  exact hsorted.imp of_decide_eq_true

/-- Candidates are the names that begin with a text. -/
def OffersNames (names : List String) (text : String) (candidates : List Candidate) : Prop :=
  ∀ c, c ∈ candidates ↔ ∃ n ∈ names, text.toList <+: n.toList ∧ c = ⟨n, n⟩

theorem offersNames_completeCommand (names : List String) (text : String) :
    OffersNames names text (completeCommand names text) := by
  intro c
  simp only [completeCommand, List.mem_map, List.mem_filter, mem_sortedNames,
    List.isPrefixOf_iff_prefix, and_assoc, @eq_comm _ c]

theorem pairwise_completeCommand (names : List String) (typed : String) :
    (completeCommand names typed).Pairwise (·.display < ·.display) := by
  rw [completeCommand, List.pairwise_map]
  exact (pairwise_sortedNames names).filter _

/-! ## Entries of directories -/

/-- The candidate for an entry whose name is a text. A directory has a slash behind its name, and
the typed directory stays in front. -/
def candidateOf (directory name : String) (node : Node) : Candidate :=
  let shown := if node.isDir then name ++ "/" else name
  ⟨shown, directory ++ shown⟩

theorem candidate?_eq_some_iff {directory typed : List Char} {e : Name × Node} {c : Candidate} :
    candidate? directory typed e = some c ↔
      ∃ name : String, Text.toBytes name = e.1 ∧ typed <+: name.toList ∧
        c = candidateOf (String.ofList directory) name e.2 := by
  have hcandidate : ∀ name : String, some (Candidate.mk
      (String.ofList (if e.2.isDir then name.toList ++ ['/'] else name.toList))
      (String.ofList (directory ++ if e.2.isDir then name.toList ++ ['/'] else name.toList))) =
        some (candidateOf (String.ofList directory) name e.2) := by
    intro name
    unfold candidateOf
    cases e.2.isDir <;> simp [String.ofList_append]
  constructor
  · intro hsome
    rw [candidate?] at hsome
    split at hsome
    · cases hsome
    · next cs hread =>
        split at hsome
        · next hbegins =>
            have hchars : cs = (String.ofList cs).toList := String.toList_ofList.symm
            refine ⟨String.ofList cs, Text.decode?_eq_ok_iff.mp hread, ?_, ?_⟩
            · rw [← hchars]
              exact List.isPrefixOf_iff_prefix.mp hbegins
            · have hsame := hcandidate (String.ofList cs)
              rw [← hchars] at hsame
              exact (Option.some.inj (hsame.symm.trans hsome)).symm
        · cases hsome
  · rintro ⟨name, hbytes, hbegins, rfl⟩
    have hread : Text.decode? e.1 = .ok name.toList := by
      rw [Text.decode?_eq_ok_iff, String.ofList_toList, hbytes]
    rw [candidate?, hread]
    simp only [List.isPrefixOf_iff_prefix.mpr hbegins, if_true]
    exact hcandidate name

/-- A proper name holds no slash as a text either. -/
theorem slash_not_mem {name : String} (hname : IsName (Text.toBytes name)) :
    '/' ∉ name.toList := by
  intro hslash
  refine hname.no_slash ?_
  rw [Text.toBytes_eq_flatMap]
  exact List.mem_flatMap.mpr ⟨'/', hslash, by decide⟩

/-- What is shown for two entries differs if their names do. -/
theorem candidateOf_display_inj {directory name name' : String} {node node' : Node}
    (hname : IsName (Text.toBytes name)) (hname' : IsName (Text.toBytes name'))
    (hshown : (candidateOf directory name node).display =
      (candidateOf directory name' node').display) : name = name' := by
  have hslash : '/' ∉ name.toList := slash_not_mem hname
  have hslash' : '/' ∉ name'.toList := slash_not_mem hname'
  have hchars := congrArg String.toList hshown
  unfold candidateOf at hchars
  -- The slash behind a directory stands in no name, so it is behind both or behind none.
  cases hdir : node.isDir <;> cases hdir' : node'.isDir
  · simpa [hdir, hdir', String.toList_inj] using hchars
  · simp only [hdir, hdir', Bool.false_eq_true, if_false, if_true, String.toList_append] at hchars
    exact absurd (hchars ▸ List.mem_append_right _ List.mem_cons_self) hslash
  · simp only [hdir, hdir', Bool.false_eq_true, if_false, if_true, String.toList_append] at hchars
    exact absurd (hchars ▸ List.mem_append_right _ List.mem_cons_self) hslash'
  · simpa [hdir, hdir', String.toList_inj] using hchars

theorem candidateOf_replacement (directory name : String) (node : Node) :
    (candidateOf directory name node).replacement =
      directory ++ (candidateOf directory name node).display := rfl

theorem prefix_candidateOf_display (directory name : String) (node : Node) :
    name.toList <+: (candidateOf directory name node).display.toList := by
  unfold candidateOf
  cases node.isDir <;> simp

/-- Candidates that are shown differently ascend strictly once they are sorted. -/
theorem pairwise_mergeSort_display {cs : List Candidate}
    (hdistinct : cs.Pairwise fun a b => a.display ≠ b.display) :
    (cs.mergeSort fun a b => a.display ≤ b.display).Pairwise (·.display < ·.display) := by
  have hsorted := @List.pairwise_mergeSort Candidate (fun a b => a.display ≤ b.display)
    (fun a b c hab hbc => by simpa using le_trans (of_decide_eq_true hab) (of_decide_eq_true hbc))
    (fun a b => by simpa using le_total a.display b.display) cs
  have hperm := List.mergeSort_perm cs fun a b => a.display ≤ b.display
  have hdistinct' := (hperm.pairwise_iff fun h => Ne.symm h).mpr hdistinct
  exact (hsorted.and hdistinct').imp fun ⟨hle, hne⟩ => lt_of_le_of_ne (of_decide_eq_true hle) hne

/-- Candidates are the entries of a directory whose names are texts that begin as typed; there are
none if the directory cannot be read. -/
def OffersEntries (fs : FileSystem) (searched : Path) (directory typed : String)
    (candidates : List Candidate) : Prop :=
  match fs.readDirectory searched with
  | .error _ => candidates = []
  | .ok es => ∀ c, c ∈ candidates ↔ ∃ e ∈ es, ∃ name : String, Text.toBytes name = e.1 ∧
      typed.toList <+: name.toList ∧ c = candidateOf directory name e.2

section Directory

variable {fs : FileSystem} {current : Path} {typed : List Char} {es : List (Name × Node)}

theorem completePath_of_error {e : IoError}
    (hread : fs.readDirectory (searchDirectory current (splitTyped typed).1) = .error e) :
    completePath fs current typed = [] := by
  simp only [completePath, hread]

theorem completePath_of_ok
    (hread : fs.readDirectory (searchDirectory current (splitTyped typed).1) = .ok es) :
    completePath fs current typed =
      (es.filterMap (candidate? (splitTyped typed).1 (splitTyped typed).2)).mergeSort
        fun a b => a.display ≤ b.display := by
  simp only [completePath, hread]

theorem offersEntries_completePath (fs : FileSystem) (current : Path) (typed : List Char) :
    OffersEntries fs (searchDirectory current (splitTyped typed).1)
      (String.ofList (splitTyped typed).1) (String.ofList (splitTyped typed).2)
      (completePath fs current typed) := by
  unfold OffersEntries
  split
  · next e hread => exact completePath_of_error hread
  · next es hread =>
      intro c
      rw [completePath_of_ok hread, List.mem_mergeSort, List.mem_filterMap, String.toList_ofList]
      simp only [candidate?_eq_some_iff]

/-- No two entries are shown alike. -/
theorem pairwise_filterMap_candidate? (directory name : List Char)
    (hnames : ∀ e ∈ es, IsName e.1) (hnodup : (es.map (·.1)).Nodup) :
    (es.filterMap (candidate? directory name)).Pairwise fun a b => a.display ≠ b.display := by
  rw [List.pairwise_filterMap]
  refine (List.pairwise_map.mp hnodup).imp_of_mem ?_
  intro e e' he he' hne c hc c' hc' hshown
  obtain ⟨text, htext, -, rfl⟩ := candidate?_eq_some_iff.mp hc
  obtain ⟨text', htext', -, rfl⟩ := candidate?_eq_some_iff.mp hc'
  have hsame : text = text' :=
    candidateOf_display_inj (htext ▸ hnames e he) (htext' ▸ hnames e' he') hshown
  exact hne (by rw [← htext, ← htext', hsame])

theorem pairwise_completePath (hsound : fs.Sound) (current : Path) (typed : List Char) :
    (completePath fs current typed).Pairwise (·.display < ·.display) := by
  cases hread : fs.readDirectory (searchDirectory current (splitTyped typed).1) with
  | error e =>
      rw [completePath_of_error hread]
      exact .nil
  | ok es =>
      obtain ⟨hnames, hnodup⟩ := hsound.of_readDirectory hread
      rw [completePath_of_ok hread]
      exact pairwise_mergeSort_display (pairwise_filterMap_candidate? _ _ hnames hnodup)

/-- Each candidate goes on with what was typed. -/
theorem typed_prefix_of_mem_completePath {c : Candidate} (hc : c ∈ completePath fs current typed) :
    typed <+: c.replacement.toList := by
  have hoffers := offersEntries_completePath fs current typed
  unfold OffersEntries at hoffers
  split at hoffers
  · rw [hoffers] at hc
    cases hc
  · obtain ⟨e, -, name, -, hbegins, rfl⟩ := (hoffers c).mp hc
    rw [String.toList_ofList] at hbegins
    have hshown := hbegins.trans (prefix_candidateOf_display
      (String.ofList (splitTyped typed).1) name e.2)
    have hwhole := (endsInRun_splitTyped typed).whole
    rw [candidateOf_replacement, String.toList_append, String.toList_ofList]
    calc typed = (splitTyped typed).1 ++ (splitTyped typed).2 := hwhole
      _ <+: _ := (List.prefix_append_right_inj _).mpr hshown

end Directory

/-! ## Lines -/

section Lines

variable (names : List String) (fs : FileSystem) (current : Path) (before after : String)

theorem takeBytes_utf8ByteSize :
    takeBytes before.utf8ByteSize (before ++ after).toList = before.toList := by
  rw [← byteLength_toList, String.toList_append, takeBytes_append]

/-- Outside strings the name at the cursor is completed. -/
theorem complete_of_closed (hclosed : openStringStart? before.toList = none) :
    complete names fs current (before ++ after) before.utf8ByteSize =
      (byteLength (before.toList.rdropWhile isNameChar),
        completeCommand names (String.ofList (lastName before.toList))) := by
  simp only [complete, takeBytes_utf8ByteSize, hclosed, nameStart_eq]

/-- In a string what stands behind its quote is completed. -/
theorem complete_of_open {head text : List Char} (hwhole : before.toList = head ++ text)
    (hopen : openStringStart? before.toList = some (byteLength head)) :
    complete names fs current (before ++ after) before.utf8ByteSize =
      (byteLength head, completePath fs current text) := by
  simp only [complete, takeBytes_utf8ByteSize, hopen]
  rw [hwhole, dropBytes_append]

end Lines

/-- A completion replaces the text from a place between two characters up to the cursor, by
candidates that go on with that text and are shown in strictly ascending order. Outside strings the
text is the longest run of characters of names before the cursor, and the candidates are the
registered names that begin with it. In a string it is what stands behind the quote, and the
candidates are the entries of a directory whose names are texts and begin as typed; none if the
directory cannot be read. -/
theorem complete_contract (names : List String) {fs : FileSystem} (hsound : fs.Sound)
    (current : Path) (before after : String) :
    ∃ head text candidates, before = head ++ text ∧
      complete names fs current (before ++ after) before.utf8ByteSize =
        (head.utf8ByteSize, candidates) ∧
      candidates.Pairwise (·.display < ·.display) ∧
      (∀ c ∈ candidates, text.toList <+: c.replacement.toList) ∧
      match openStringStart? before.toList with
      | none =>
          EndsInRun isNameChar before.toList head.toList text.toList ∧
            OffersNames names text candidates
      | some start =>
          start = head.utf8ByteSize ∧ (∃ quote, head.toList.getLast? = some quote ∧ IsQuote quote) ∧
            ∃ directory typed : String,
              EndsInRun (fun c => !isSeparator c) text.toList directory.toList typed.toList ∧
              OffersEntries fs (current.join (Path.ofString directory)) directory typed
                candidates := by
  cases hopen : openStringStart? before.toList with
  | none =>
      have hrun := endsInRun_lastName before.toList
      have hoffers := offersNames_completeCommand names (String.ofList (lastName before.toList))
      refine ⟨String.ofList (before.toList.rdropWhile isNameChar),
        String.ofList (lastName before.toList), completeCommand names _, ?_, ?_,
        pairwise_completeCommand names _, ?_, ?_, hoffers⟩
      · rw [← String.ofList_append, ← hrun.whole, String.ofList_toList]
      · rw [complete_of_closed names fs current before after hopen, ← byteLength_toList,
          String.toList_ofList]
      · intro c hc
        obtain ⟨n, -, hbegins, rfl⟩ := (hoffers c).mp hc
        exact hbegins
      · rwa [String.toList_ofList, String.toList_ofList]
  | some start =>
      obtain ⟨init, quote, text, hquote, hwhole, rfl⟩ := openStringStart?_eq_some hopen
      rw [List.append_cons] at hwhole
      have hrun := endsInRun_splitTyped text
      refine ⟨String.ofList (init ++ [quote]), String.ofList text, completePath fs current text,
        ?_, ?_, pairwise_completePath hsound current text, ?_, ?_, ⟨quote, ?_, hquote⟩,
        String.ofList (splitTyped text).1, String.ofList (splitTyped text).2, ?_,
        offersEntries_completePath fs current text⟩
      · rw [← String.ofList_append, ← hwhole, String.ofList_toList]
      · rw [complete_of_open names fs current before after hwhole hopen, ← byteLength_toList,
          String.toList_ofList]
      · intro c hc
        rw [String.toList_ofList]
        exact typed_prefix_of_mem_completePath hc
      · rw [← byteLength_toList, String.toList_ofList]
      · rw [String.toList_ofList, List.getLast?_concat]
      · rwa [String.toList_ofList, String.toList_ofList, String.toList_ofList]

/-- In a string behind a letter of two bytes a link and a directory go on as typed; the name of
another directory is no text. Behind such a letter and an operator a name is completed that begins
with a low line. -/
theorem complete_contract_in_string :
    let es : List (Name × Node) := [(Text.toBytes "äb", .dir []), ([0xC3], .dir []),
      (Text.toBytes "ä", .link Path.rootDirectory), (Text.toBytes "b", .dir [])]
    let fs : FileSystem := ⟨.dir [(Text.toBytes "w", .dir es)], #[], none⟩
    let candidates : List Candidate := [⟨"ä", "ä"⟩, ⟨"äb/", "äb/"⟩]
    let names := ["run", "_run2", "_r", "_", "_re"]
    let named : List Candidate := [⟨"_r", "_r"⟩, ⟨"_re", "_re"⟩, ⟨"_run2", "_run2"⟩]
    fs.Sound ∧ openStringStart? "é('ä".toList = some 4 ∧
      complete ["ls"] fs (Path.ofString "/w") ("é('ä" ++ "')") "é('ä".utf8ByteSize =
        (4, candidates) ∧
      candidates.Pairwise (·.display < ·.display) ∧
      (∃ head text : String, "é('ä" = head ++ text ∧ head.utf8ByteSize = 4 ∧
        (∀ c ∈ candidates, text.toList <+: c.replacement.toList) ∧
        ∃ directory typed : String,
          EndsInRun (fun c => !isSeparator c) text.toList directory.toList typed.toList ∧
          OffersEntries fs ((Path.ofString "/w").join (Path.ofString directory)) directory typed
            candidates) ∧
      openStringStart? "é+_r".toList = none ∧
      complete names fs (Path.ofString "/w") ("é+_r" ++ "(1)") "é+_r".utf8ByteSize = (3, named) ∧
      named.Pairwise (·.display < ·.display) ∧
      ∃ head text : String, "é+_r" = head ++ text ∧ head.utf8ByteSize = 3 ∧
        (∀ c ∈ named, text.toList <+: c.replacement.toList) ∧
        EndsInRun isNameChar "é+_r".toList head.toList text.toList ∧ OffersNames names text named := by
  intro es fs candidates names named
  have hsound : fs.Sound := by decide
  have hopen : openStringStart? "é('ä".toList = some 4 := by decide
  have hcomplete : complete ["ls"] fs (Path.ofString "/w") ("é('ä" ++ "')") "é('ä".utf8ByteSize =
      (4, candidates) := by cbv
  obtain ⟨head, text, candidates', hwhole, hcomplete', hsorted, hextends, hoffers⟩ :=
    complete_contract ["ls"] hsound (Path.ofString "/w") "é('ä" "')"
  obtain ⟨hhead, rfl⟩ := Prod.mk.inj (hcomplete'.symm.trans hcomplete)
  simp only [hopen] at hoffers
  have hclosed : openStringStart? "é+_r".toList = none := by decide
  have hcompleted : complete names fs (Path.ofString "/w") ("é+_r" ++ "(1)") "é+_r".utf8ByteSize =
      (3, named) := by cbv
  obtain ⟨head', text', named', hwhole', hcompleted', hsorted', hextends', hnames⟩ :=
    complete_contract names hsound (Path.ofString "/w") "é+_r" "(1)"
  obtain ⟨hhead', rfl⟩ := Prod.mk.inj (hcompleted'.symm.trans hcompleted)
  simp only [hclosed] at hnames
  exact ⟨hsound, hopen, hcomplete, hsorted,
    ⟨head, text, hwhole, hhead, hextends, hoffers.2.2⟩, hclosed, hcompleted, hsorted',
    head', text', hwhole', hhead', hextends', hnames⟩

end LuaShell.Completion
