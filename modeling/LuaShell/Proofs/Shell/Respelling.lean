import LuaShell.Shell.Flags
import Mathlib

/-!
# Arguments spelled from their actions

The actions of a command line say what its arguments were.  Spelled out again one after the other
(`Startup.respell`) they are the arguments, but for the names of flags that have two, and they are
read as the same actions (`Flag.parse_keeps_arguments`).

Only one thing hangs on the place of an argument: behind a flag that asks for a source the next one
is the source, whatever it looks like (`Flag.IsSource`).  So two lists of arguments can be read
apart unless the second one begins with the source that the first one asks for.
-/

namespace LuaShell

/-- An action, spelled as arguments. A flag is spelled by its long name, but the flag of a source by
its short one. -/
def Startup.respell : Startup → List String
  | .shell => ["--shell"]
  | .noShell => ["--no-shell"]
  | .inline source => ["-e", source]
  | .ignored flag => [flag]
  | .help => ["--help"]
  | .version => ["--version"]
  | .debug => ["--debug"]
  | .unknown flag => [flag]
  | .file path => [path]

namespace Flag

/-! ## Names of flags -/

/-- The names of a flag. -/
def names (f : Flag) : List String :=
  f.short.toList ++ [f.long]

/-- Two spellings of an argument: one text, or two names of one flag. -/
def Alias (x y : String) : Prop :=
  x = y ∨ ∃ f ∈ all, x ∈ f.names ∧ y ∈ f.names

/-- The next argument is the source of this one. -/
def AsksSource (x : String) : Prop :=
  x = "-e" ∨ x = "--execute"

/-- No name stands for two meanings. -/
theorem meaning_unique : ∀ f ∈ all, ∀ g ∈ all, ∀ x ∈ f.names, x ∈ g.names → f.meaning = g.meaning := by
  decide

/-- No meaning has two flags. -/
theorem names_unique : ∀ f ∈ all, ∀ g ∈ all, f.meaning = g.meaning → f.names = g.names := by
  decide

theorem names_of_inline : ∀ f ∈ all, f.meaning = .inline → f.names = ["-e", "--execute"] := by
  decide

variable {x y : String}

theorem mem_names_iff {f : Flag} : x ∈ f.names ↔ f.short = some x ∨ f.long = x := by
  simp [names, eq_comm]

theorem meaning?_eq_some_iff {m : FlagMeaning} :
    meaning? x = some m ↔ ∃ f ∈ all, x ∈ f.names ∧ f.meaning = m := by
  constructor
  · intro hmeaning
    obtain ⟨f, hfound, hm⟩ := Option.map_eq_some_iff.mp hmeaning
    have hnamed := List.find?_some hfound
    exact ⟨f, List.mem_of_find?_eq_some hfound, mem_names_iff.2 (by simpa using hnamed), hm⟩
  · rintro ⟨f, hf, hx, rfl⟩
    have hsome : (all.find? fun g => g.short = some x || g.long = x).isSome := by
      rw [List.find?_isSome]
      exact ⟨f, hf, by simpa using mem_names_iff.1 hx⟩
    obtain ⟨g, hg⟩ := Option.isSome_iff_exists.mp hsome
    have hgx : x ∈ g.names := mem_names_iff.2 (by simpa using List.find?_some hg)
    have hsame := meaning_unique g (List.mem_of_find?_eq_some hg) f hf x hgx hx
    rw [meaning?, hg, Option.map_some, hsame]

theorem asksSource_iff : AsksSource x ↔ meaning? x = some .inline := by
  constructor
  · rintro (rfl | rfl) <;> decide
  · intro hmeaning
    obtain ⟨f, hf, hx, hm⟩ := meaning?_eq_some_iff.1 hmeaning
    simpa [AsksSource, names_of_inline f hf hm] using hx

/-- Flags of one meaning are one flag. -/
theorem alias_of_meaning {m : FlagMeaning} (hx : meaning? x = some m) (hy : meaning? y = some m) :
    Alias x y := by
  obtain ⟨f, hf, hxf, hfm⟩ := meaning?_eq_some_iff.1 hx
  obtain ⟨g, hg, hyg, hgm⟩ := meaning?_eq_some_iff.1 hy
  have hnames : g.names = f.names := names_unique g hg f hf (hgm.trans hfm.symm)
  exact Or.inr ⟨f, hf, hxf, hnames ▸ hyg⟩

/-! ## Sources -/

/-- The argument at a place is the source of the one before it. -/
def IsSource (args : List String) : Nat → Prop
  | 0 => False
  | i + 1 => (∃ x, args[i]? = some x ∧ AsksSource x) ∧ ¬ IsSource args i

/-- The last argument asks for a source that is not there: it is no source itself. -/
def AskForMore (args : List String) : Prop :=
  ∃ init x, args = init ++ [x] ∧ AsksSource x ∧ ¬ IsSource args init.length

/-- Arguments are read from the left: one that asks for a source that is not there, one that asks
for a source together with it, or one by itself. -/
@[elab_as_elim]
theorem arguments_induction {motive : List String → Prop} (nil : motive [])
    (dangling : ∀ x, AsksSource x → motive [x])
    (sourced : ∀ x source rest, AsksSource x → motive rest → motive (x :: source :: rest))
    (plain : ∀ x rest, ¬ AsksSource x → motive rest → motive (x :: rest)) :
    ∀ args, motive args
  | [] => nil
  | [x] => by
      by_cases hx : AsksSource x
      · exact dangling x hx
      · exact plain x [] hx nil
  | x :: y :: rest => by
      by_cases hx : AsksSource x
      · exact sourced x y rest hx (arguments_induction nil dangling sourced plain rest)
      · exact plain x (y :: rest) hx (arguments_induction nil dangling sourced plain (y :: rest))

section Places

variable {a : List String} (b : List String) {i : Nat}

/-- Only what stands before a place decides whether there is a source. -/
theorem isSource_append_left (hi : i ≤ a.length) : IsSource (a ++ b) i ↔ IsSource a i := by
  induction i with
  | zero => rfl
  | succ i ih =>
      have hget : (a ++ b)[i]? = a[i]? := List.getElem?_append_left (by omega)
      simp only [IsSource, hget, ih (by omega)]

/-- Behind arguments that do not ask for one more, sources are counted anew. -/
theorem isSource_append_right (ha : ¬ IsSource a a.length) :
    IsSource (a ++ b) (a.length + i) ↔ IsSource b i := by
  induction i with
  | zero =>
      rw [Nat.add_zero, isSource_append_left b (Nat.le_refl _)]
      exact iff_of_false ha not_false
  | succ i ih =>
      have hget : (a ++ b)[a.length + i]? = b[i]? := by
        rw [List.getElem?_append_right (by omega)]
        congr 1
        omega
      rw [← Nat.add_assoc]
      simp only [IsSource, hget, ih]

theorem isSource_sourced (hx : AsksSource x) (source : String) (rest : List String) :
    IsSource (x :: source :: rest) (i + 2) ↔ IsSource rest i := by
  have hsource : ¬ IsSource [x, source] 2 := by
    simp [IsSource, hx]
  simpa [Nat.add_comm] using isSource_append_right rest hsource

theorem isSource_plain (hx : ¬ AsksSource x) (rest : List String) :
    IsSource (x :: rest) (i + 1) ↔ IsSource rest i := by
  have hnone : ¬ IsSource [x] 1 := by
    simp [IsSource, hx]
  simpa [Nat.add_comm] using isSource_append_right rest hnone

/-- Arguments ask for one more exactly if one more would be a source. -/
theorem askForMore_iff : AskForMore a ↔ IsSource a a.length := by
  constructor
  · rintro ⟨init, x, rfl, hx, hinit⟩
    rw [List.length_append, List.length_singleton]
    exact ⟨⟨x, List.getElem?_concat_length, hx⟩, hinit⟩
  · intro ha
    induction a using List.reverseRecOn with
    | nil => exact ha.elim
    | append_singleton init x _ =>
        rw [List.length_append, List.length_singleton] at ha
        obtain ⟨⟨y, hy, hasks⟩, hinit⟩ := ha
        rw [List.getElem?_concat_length, Option.some.injEq] at hy
        exact ⟨init, x, rfl, hy ▸ hasks, hinit⟩

end Places

/-! ## Reading -/

section Reading

variable {source : String} {rest : List String}

theorem parse_nil : parse [] = [] := rfl

theorem parse_singleton : parse [x] = [action x (meaning? x)] := rfl

theorem parse_cons_cons : parse (x :: y :: rest) =
    match meaning? x with
    | some .inline => .inline y :: parse rest
    | m => action x m :: parse (y :: rest) := rfl

theorem parse_dangling (hx : AsksSource x) : parse [x] = [.unknown x] := by
  rw [parse_singleton, asksSource_iff.1 hx]
  rfl

theorem parse_sourced (hx : AsksSource x) :
    parse (x :: source :: rest) = .inline source :: parse rest := by
  rw [parse_cons_cons, asksSource_iff.1 hx]

theorem parse_plain (hx : ¬ AsksSource x) :
    parse (x :: rest) = action x (meaning? x) :: parse rest := by
  rw [asksSource_iff] at hx
  cases rest with
  | nil => rfl
  | cons y rest =>
      rw [parse_cons_cons]
      split
      · next hinline => exact absurd hinline hx
      · rfl

/-- Arguments that do not ask for one more are read by themselves. -/
theorem parse_append {a : List String} (b : List String) (ha : ¬ IsSource a a.length) :
    parse (a ++ b) = parse a ++ parse b := by
  induction a using arguments_induction with
  | nil => rfl
  | dangling x hx => exact absurd ⟨⟨x, rfl, hx⟩, not_false⟩ ha
  | sourced x source rest hx ih =>
      rw [List.length_cons, List.length_cons, isSource_sourced hx] at ha
      rw [List.cons_append, List.cons_append, parse_sourced hx, parse_sourced hx, ih ha,
        List.cons_append]
  | plain x rest hx ih =>
      rw [List.length_cons, isSource_plain hx] at ha
      rw [List.cons_append, parse_plain hx, parse_plain hx, ih ha, List.cons_append]

theorem parse_append_iff (a b : List String) :
    parse (a ++ b) = parse a ++ parse b ↔ b = [] ∨ ¬ AskForMore a := by
  constructor
  · intro hparse
    by_contra hneither
    obtain ⟨hb, ha⟩ := not_or.mp hneither
    obtain ⟨init, x, rfl, hx, hinit⟩ := not_not.mp ha
    obtain ⟨source, rest, rfl⟩ := List.exists_cons_of_ne_nil hb
    rw [isSource_append_left [x] (Nat.le_refl _)] at hinit
    -- The source is taken on one side, and missed on the other.
    rw [List.append_assoc, List.singleton_append, parse_append _ hinit, parse_append _ hinit,
      parse_sourced hx, parse_dangling hx, List.append_assoc] at hparse
    have hheads := List.append_cancel_left hparse
    rw [List.singleton_append, List.cons.injEq] at hheads
    cases hheads.1
  · rintro (rfl | ha)
    · rw [List.append_nil, parse_nil, List.append_nil]
    · exact parse_append b (askForMore_iff.not.mp ha)

theorem action_eq_unknown {m : Option FlagMeaning} (h : action x m = .unknown y) : y = x := by
  unfold action at h
  split at h
  all_goals first
    | cases h; rfl
    | cases h
    | split at h <;> cases h; rfl

/-- Nothing is read behind a flag whose source is missing. -/
theorem eq_nil_of_parse_unknown {args : List String} {before after : List Startup}
    (hparse : parse args = before ++ .unknown x :: after) (hx : AsksSource x) : after = [] := by
  induction args using arguments_induction generalizing before with
  | nil => simp [parse_nil] at hparse
  | dangling y hy =>
      rw [parse_dangling hy] at hparse
      cases before with
      | nil => exact (List.cons.inj hparse).2.symm
      | cons first before => simp at hparse
  | sourced y source rest hy ih =>
      rw [parse_sourced hy] at hparse
      cases before with
      | nil => cases (List.cons.inj hparse).1
      | cons first before => exact ih (List.cons.inj hparse).2
  | plain y rest hy ih =>
      rw [parse_plain hy] at hparse
      cases before with
      | nil =>
          obtain rfl := action_eq_unknown (List.cons.inj hparse).1
          exact absurd hx hy
      | cons first before => exact ih (List.cons.inj hparse).2

end Reading

/-! ## Spelling -/

/-- Arguments in another spelling: each stands in its place, perhaps under another name of the same
flag, and the sources are the same texts. -/
structure Respells (xs ys : List String) : Prop where
  aliases : List.Forall₂ Alias xs ys
  sources : ∀ i, IsSource xs i → ys[i]? = xs[i]?

/-- Where no source is asked for, the action of an argument is spelled by one of its names. -/
theorem respell_action (hx : ¬ AsksSource x) :
    ∃ y, (action x (meaning? x)).respell = [y] ∧ Alias x y ∧ ¬ AsksSource y ∧
      action y (meaning? y) = action x (meaning? x) := by
  have hnamed : ∀ y m, meaning? x = some m → meaning? y = some m → m ≠ .inline →
      Alias x y ∧ ¬ AsksSource y ∧ action y (meaning? y) = action y (some m) := by
    intro y m hxm hym hm
    refine ⟨alias_of_meaning hxm hym, ?_, by rw [hym]⟩
    rw [asksSource_iff, hym]
    simpa using hm
  cases hmeaning : meaning? x with
  | none =>
      refine ⟨x, ?_, Or.inl rfl, hx, by rw [hmeaning]⟩
      rw [action]
      split <;> rfl
  | some m =>
      cases m with
      | inline => exact absurd (asksSource_iff.2 hmeaning) hx
      | ignored => exact ⟨x, rfl, Or.inl rfl, hx, by rw [hmeaning]⟩
      | shell => exact ⟨"--shell", rfl, hnamed _ _ hmeaning (by decide) (by decide)⟩
      | noShell => exact ⟨"--no-shell", rfl, hnamed _ _ hmeaning (by decide) (by decide)⟩
      | help => exact ⟨"--help", rfl, hnamed _ _ hmeaning (by decide) (by decide)⟩
      | version => exact ⟨"--version", rfl, hnamed _ _ hmeaning (by decide) (by decide)⟩
      | debug => exact ⟨"--debug", rfl, hnamed _ _ hmeaning (by decide) (by decide)⟩

theorem respells_parse (args : List String) :
    Respells args ((parse args).flatMap Startup.respell) := by
  induction args using arguments_induction with
  | nil => exact ⟨.nil, fun i _ => rfl⟩
  | dangling x hx =>
      rw [parse_dangling hx]
      exact ⟨.cons (Or.inl rfl) .nil, fun i _ => rfl⟩
  | sourced x source rest hx ih =>
      rw [parse_sourced hx, List.flatMap_cons]
      have halias : Alias x "-e" :=
        alias_of_meaning (asksSource_iff.1 hx) (asksSource_iff.1 (Or.inl rfl))
      refine ⟨.cons halias (.cons (Or.inl rfl) ih.aliases), fun i hi => ?_⟩
      match i with
      | 0 => exact hi.elim
      | 1 => rfl
      | i + 2 => exact ih.sources i ((isSource_sourced hx source rest).mp hi)
  | plain x rest hx ih =>
      obtain ⟨y, hspelled, halias, -, -⟩ := respell_action hx
      rw [parse_plain hx, List.flatMap_cons, hspelled]
      refine ⟨.cons halias ih.aliases, fun i hi => ?_⟩
      match i with
      | 0 => exact hi.elim
      | i + 1 => exact ih.sources i ((isSource_plain hx rest).mp hi)

theorem parse_respell (args : List String) :
    parse ((parse args).flatMap Startup.respell) = parse args := by
  induction args using arguments_induction with
  | nil => rfl
  | dangling x hx =>
      rw [parse_dangling hx]
      exact parse_dangling hx
  | sourced x source rest hx ih =>
      rw [parse_sourced hx, List.flatMap_cons]
      show parse ("-e" :: source :: (parse rest).flatMap Startup.respell) = _
      rw [parse_sourced (Or.inl rfl), ih]
  | plain x rest hx ih =>
      obtain ⟨y, hspelled, -, hy, haction⟩ := respell_action hx
      rw [parse_plain hx, List.flatMap_cons, hspelled, List.singleton_append, parse_plain hy, haction,
        ih]

/-- No argument is lost, and none changes its place: the actions spell the arguments, and are read
from that spelling again. Two lists are read one after the other unless the second begins with the
source that the first asks for. A source is taken as it is, and a flag whose source is missing
is the last argument. -/
theorem parse_keeps_arguments (args : List String) :
    Respells args ((parse args).flatMap Startup.respell) ∧
    parse ((parse args).flatMap Startup.respell) = parse args ∧
    (∀ more, parse (args ++ more) = parse args ++ parse more ↔
      more = [] ∨ ¬ AskForMore args) ∧
    (∀ x source rest, AsksSource x → ¬ AskForMore args →
      parse (args ++ x :: source :: rest) = parse args ++ .inline source :: parse rest) ∧
    ∀ before x after, AsksSource x → parse args = before ++ .unknown x :: after → after = [] := by
  refine ⟨respells_parse args, parse_respell args, parse_append_iff args, ?_, ?_⟩
  · intro x source rest hx hargs
    rw [parse_append _ (askForMore_iff.not.mp hargs), parse_sourced hx]
  · intro before x after hx hparse
    exact eq_nil_of_parse_unknown hparse hx

example : parse ["-h", "-e", "-e", "--execute"] =
    [.help, .inline "-e", .unknown "--execute"] := by decide

end Flag

end LuaShell
