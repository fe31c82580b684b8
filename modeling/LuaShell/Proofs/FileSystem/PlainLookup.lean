import LuaShell.Proofs.FileSystem.Entries
import LuaShell.Proofs.Path.Normalization
import Mathlib

/-!
# Lookups that meet no link

One step from a directory leads to the entry at the location that the step spells
(`turn_eq_ok_iff`).  So as long as no link stands in the way, a lookup reaches what the
path spells if it reaches anything (`find_of_plain`), and the names of an entry lead to
it (`walk_names`).  On a tree without links every path is plain, and there a path and
its normal form reach the same entry.
-/

namespace LuaShell

/-- No link stands at any location that the steps pass on their way from `here`. -/
def Node.Plain (root : Node) (here : Location) (path : List Name) : Prop :=
  ∀ cs, cs <+: path → ∀ target, root.at? (cs.foldl Location.step here) ≠ some (.link target)

/-- No link stands at any location that an absolute path passes. -/
def FileSystem.Plain (fs : FileSystem) (p : Path) : Prop :=
  fs.root.Plain [] p.steps

theorem Node.LinkFree.plain {root : Node} (hfree : root.LinkFree) (here : Location)
    (path : List Name) : root.Plain here path :=
  fun _ _ target => hfree _ target

theorem Node.Plain.tail {root : Node} {here : Location} {c : Name} {path : List Name}
    (hplain : root.Plain here (c :: path)) : root.Plain (here.step c) path :=
  fun cs hcs => hplain (c :: cs) (List.cons_prefix_cons.mpr ⟨rfl, hcs⟩)

theorem Node.Plain.head {root : Node} {here : Location} {c : Name} {path : List Name}
    (hplain : root.Plain here (c :: path)) (target : Path) :
    root.at? (here.step c) ≠ some (.link target) :=
  hplain [c] (by simp) target

/-- A step that stays at the end passes nothing new. -/
theorem Node.Plain.concat_dot {root : Node} {here : Location} {path : List Name}
    (hplain : root.Plain here path) : root.Plain here (path ++ [[Path.dot]]) := by
  intro cs hcs
  rcases List.prefix_concat_iff.mp hcs with rfl | hcs
  · have hstay : (path ++ [[Path.dot]]).foldl Location.step here =
        path.foldl Location.step here := by
      simp [Location.step]
    rw [hstay]
    exact hplain path (List.prefix_refl path)
  · exact hplain cs hcs

theorem FileSystem.Plain.lookupSteps {fs : FileSystem} {p : Path} (hplain : fs.Plain p) :
    fs.root.Plain [] p.lookupSteps := by
  unfold Path.lookupSteps
  split
  · exact Node.Plain.concat_dot hplain
  · exact hplain

namespace FileSystem

open LuaShell.Path (dot IsName)

/-! ## Single steps -/

/-- A step from a directory leads to the entry at the location that the step spells. -/
theorem turn_of_dir {root : Node} {here : Location} {es : List (Name × Node)}
    (hdir : root.at? here = some (.dir es)) {c : Name} (hshort : c.length ≤ Path.maxName) :
    turn root here c = match root.at? (here.step c) with
      | none => .error Errno.noEntry
      | some n => .ok (.onto (here.step c) n) := by
  have hlong : ¬ Path.maxName < c.length := by omega
  simp only [turn, hdir, if_neg hlong]
  by_cases hdot : c = [dot]
  · have hstep : here.step c = here := by simp [Location.step, hdot]
    rw [if_pos hdot, hstep, hdir]
    rfl
  by_cases hdots : c = [dot, dot]
  -- Above a directory there is a directory, so two dots always lead somewhere.
  · have hstep : here.step c = here.dropLast := by simp [Location.step, hdots]
    have hup : here.dropLast <+: here := List.dropLast_prefix here
    obtain ⟨es', hes'⟩ := Node.dir_above hup hdir
    rw [if_neg hdot, if_pos hdots, hstep, hes']
    rfl
  · have hstep : here.step c = here ++ [c] := by simp [Location.step, hdot, hdots]
    have hat : root.at? (here ++ [c]) = es.lookup c := Node.at?_concat_of_dir hdir c
    cases hlookup : es.lookup c with
    | none => simp [hdot, hdots, hstep, hat, hlookup]
    | some n => simp [hdot, hdots, hstep, hat, hlookup]

theorem turn_eq_ok_iff {root : Node} {here : Location} {c : Name} {t : Turn} :
    turn root here c = .ok t ↔
      (∃ es, root.at? here = some (.dir es)) ∧ c.length ≤ Path.maxName ∧
        ∃ n, root.at? (here.step c) = some n ∧ t = .onto (here.step c) n := by
  by_cases hdir : ∃ es, root.at? here = some (.dir es)
  · obtain ⟨es, hes⟩ := hdir
    by_cases hshort : c.length ≤ Path.maxName
    · rw [turn_of_dir hes hshort]
      cases hat : root.at? (here.step c) with
      | none => simp
      | some n => simp [hes, hshort, eq_comm]
    · have hlong : Path.maxName < c.length := by omega
      simp [turn, hes, hlong, hshort]
  · have hfail : turn root here c = .error Errno.notDirectory := by
      unfold turn
      split
      · next es hes => exact absurd ⟨es, hes⟩ hdir
      · rfl
    simp [hfail, hdir]

/-- In a directory a dot stays where it is. -/
theorem turn_dot {root : Node} {here : Location} {es : List (Name × Node)}
    (hdir : root.at? here = some (.dir es)) : turn root here [dot] = .ok (.place here) := by
  have hstay : here.step [dot] = here := by simp [Location.step]
  exact turn_eq_ok_iff.2 ⟨⟨es, hdir⟩, by decide, .dir es, by rw [hstay, hdir], by rw [hstay]; rfl⟩

/-- A step that comes to a place comes to an entry there. -/
theorem of_turn_place {root : Node} {here l : Location} {c : Name}
    (hturn : turn root here c = .ok (.place l)) :
    l = here.step c ∧ (root.at? l).isSome := by
  obtain ⟨-, -, n, hn, hplace⟩ := turn_eq_ok_iff.1 hturn
  cases n with
  | link target => simp [Turn.onto] at hplace
  | file id =>
      cases hplace
      exact ⟨rfl, by simp [hn]⟩
  | dir es =>
      cases hplace
      exact ⟨rfl, by simp [hn]⟩

/-- A step that comes to a link is a name, and the link stands there. -/
theorem of_turn_link {root : Node} {here : Location} {c : Name} {target : Path}
    (hturn : turn root here c = .ok (.link target)) :
    here.step c = here ++ [c] ∧ root.at? (here ++ [c]) = some (.link target) := by
  obtain ⟨⟨es, hes⟩, -, n, hn, hlink⟩ := turn_eq_ok_iff.1 hturn
  cases n with
  | file id => simp [Turn.onto] at hlink
  | dir es => simp [Turn.onto] at hlink
  | link target' =>
      cases hlink
      by_cases hdot : c = [dot]
      · simp [Location.step, hdot, hes] at hn
      by_cases hdots : c = [dot, dot]
      · have hup : here.dropLast <+: here := List.dropLast_prefix here
        obtain ⟨es', hes'⟩ := Node.dir_above hup hes
        simp [Location.step, hdots, hes'] at hn
      · have hstep : here.step c = here ++ [c] := by simp [Location.step, hdot, hdots]
        exact ⟨hstep, hstep ▸ hn⟩

/-! ## Walks -/

/-- A walk from an entry ends at an entry. -/
theorem at?_of_walk {root : Node} {follow : Bool} {links left : Nat} {here l : Location}
    {path : List Name} (hhere : (root.at? here).isSome)
    (hwalk : walk root follow links here path = .ok (l, left)) : (root.at? l).isSome := by
  fun_induction walk root follow links here path with
  | case1 =>
      cases hwalk
      exact hhere
  | case2 | case5 => cases hwalk
  | case3 _ _ _ _ _ hturn ih => exact ih (of_turn_place hturn).2 hwalk
  | case4 _ _ _ _ _ hturn =>
      cases hwalk
      simp [(of_turn_link hturn).2]
  | case6 _ _ _ _ _ _ _ ih =>
      refine ih ?_ hwalk
      unfold linkStart
      split
      · simp
      · exact hhere

/-- A walk that goes on goes on from a directory. -/
theorem dir_of_walk_cons {root : Node} {follow : Bool} {links : Nat} {here : Location} {c : Name}
    {rest : List Name} {r : Location × Nat}
    (hwalk : walk root follow links here (c :: rest) = .ok r) :
    ∃ es, root.at? here = some (.dir es) := by
  rw [walk_cons] at hwalk
  cases hturn : turn root here c with
  | error e => simp [hturn] at hwalk
  | ok t => exact (turn_eq_ok_iff.1 hturn).1

/-- A walk that meets no link ends at the location that its steps spell. -/
theorem walk_of_plain {root : Node} {follow : Bool} {links left : Nat} {here l : Location}
    {path : List Name} (hplain : root.Plain here path)
    (hwalk : walk root follow links here path = .ok (l, left)) :
    l = path.foldl Location.step here ∧ left = links ∧ ∀ c ∈ path, c.length ≤ Path.maxName := by
  induction path generalizing here with
  | nil =>
      rw [walk_nil] at hwalk
      cases hwalk
      simp
  | cons c path ih =>
      rw [walk_cons] at hwalk
      cases hturn : turn root here c with
      | error e => simp [hturn] at hwalk
      | ok t =>
          have hshort := (turn_eq_ok_iff.1 hturn).2.1
          cases t with
          | link target =>
              obtain ⟨hstep, hlink⟩ := of_turn_link hturn
              exact absurd (hstep ▸ hlink) (hplain.head target)
          | place l' =>
              obtain ⟨rfl, -⟩ := of_turn_place hturn
              simp only [hturn] at hwalk
              obtain ⟨hl, hleft, hrest⟩ := ih hplain.tail hwalk
              exact ⟨hl, hleft, by simpa using ⟨hshort, hrest⟩⟩

/-- The names of an entry lead to it, as long as no link is in the way. -/
theorem walk_names {root : Node} {follow : Bool} {links : Nat} {here : Location}
    {names : List Name} (hnames : ∀ n ∈ names, IsName n ∧ n.length ≤ Path.maxName)
    (hplain : root.Plain here names) (hat : (root.at? (here ++ names)).isSome) :
    walk root follow links here names = .ok (here ++ names, links) := by
  induction names generalizing here with
  | nil => simp [walk_nil]
  | cons n names ih =>
      obtain ⟨hname, hshort⟩ := hnames n (List.mem_cons_self ..)
      have hstep : here.step n = here ++ [n] := Path.step_of_isName hname here
      have hat' : (root.at? (here ++ [n] ++ names)).isSome := by simpa using hat
      obtain ⟨es, hes⟩ := Node.dir_of_at?_append (Option.some_get hat).symm
      obtain ⟨m, hm⟩ := Option.isSome_iff_exists.mp
        (Node.at?_isSome_above (List.prefix_append _ _) hat')
      -- What stands on the way is no link, so the step comes to a place.
      have hturn : turn root here n = .ok (.place (here ++ [n])) := by
        refine turn_eq_ok_iff.2 ⟨⟨es, hes⟩, hshort, m, hstep ▸ hm, ?_⟩
        cases m with
        | link target => exact absurd (hstep ▸ hm) (hplain.head target)
        | file id => rw [hstep]; rfl
        | dir es => rw [hstep]; rfl
      have hrest := ih (fun n' hn' => hnames n' (List.mem_cons_of_mem _ hn'))
        (hstep ▸ hplain.tail) hat'
      rw [walk_cons, hturn]
      simpa using hrest

/-! ## Lookups -/

/-- A lookup is a walk from where the path starts. -/
theorem find_eq_ok_iff_start {fs : FileSystem} {p : Path} {follow : Bool} {l : Location} :
    fs.find follow p = .ok l ↔ p.refusal? = none ∧ ∃ origin left, fs.start p = .ok origin ∧
      walk fs.root follow Path.maxLinks origin p.lookupSteps = .ok (l, left) := by
  unfold find
  cases p.refusal? with
  | some e => simp
  | none =>
      cases hstart : fs.start p with
      | error e => simp [Except.bind, Except.map, Except.mapError]
      | ok origin =>
          cases hwalk : walk fs.root follow Path.maxLinks origin p.lookupSteps with
          | error e => simp [Except.bind, Except.map, Except.mapError, hwalk]
          | ok r => simp [Except.bind, Except.map, Except.mapError, hwalk, Prod.ext_iff]

/-- A lookup of an absolute path is a walk from the root. -/
theorem find_eq_ok_iff {fs : FileSystem} {p : Path} (habs : p.isAbsolute = true)
    {follow : Bool} {l : Location} :
    fs.find follow p = .ok l ↔ p.refusal? = none ∧
      ∃ left, walk fs.root follow Path.maxLinks [] p.lookupSteps = .ok (l, left) := by
  simp [find_eq_ok_iff_start, start, habs]

/-- What an absolute path leads to stands there. -/
theorem at?_of_find {fs : FileSystem} {p : Path} (habs : p.isAbsolute = true) {follow : Bool}
    {l : Location} (hfind : fs.find follow p = .ok l) : (fs.at? l).isSome := by
  obtain ⟨-, left, hwalk⟩ := (find_eq_ok_iff habs).mp hfind
  exact at?_of_walk (by simp) hwalk

/-- A plain path leads to the location that it spells if it leads anywhere. -/
theorem find_of_plain {fs : FileSystem} {p : Path} (habs : p.isAbsolute = true)
    (hplain : fs.Plain p) {follow : Bool} {l : Location} (hfind : fs.find follow p = .ok l) :
    l = p.location := by
  obtain ⟨-, left, hwalk⟩ := (find_eq_ok_iff habs).mp hfind
  obtain ⟨hl, -⟩ := walk_of_plain hplain.lookupSteps hwalk
  rw [hl, Path.foldl_step_lookupSteps]

theorem stat_eq_ok_iff {fs : FileSystem} {p : Path} {n : Node} :
    fs.stat p = .ok n ↔ ∃ l, fs.find true p = .ok l ∧ fs.at? l = some n := by
  unfold stat
  cases hfind : fs.find true p with
  | error e => simp
  | ok l =>
      cases hat : fs.at? l with
      | none => simp [hat]
      | some m => simp [hat]

theorem lstat_eq_ok_iff {fs : FileSystem} {p : Path} {n : Node} :
    fs.lstat p = .ok n ↔ ∃ l, fs.find false p = .ok l ∧ fs.at? l = some n := by
  unfold lstat
  cases hfind : fs.find false p with
  | error e => simp
  | ok l =>
      cases hat : fs.at? l with
      | none => simp [hat]
      | some m => simp [hat]

/-- A lookup that reaches anything finds a directory at the root. -/
theorem dir_of_walk_lookupSteps {root : Node} {p : Path} (hne : p.bytes ≠ []) {follow : Bool}
    {links : Nat} {r : Location × Nat}
    (hwalk : walk root follow links [] p.lookupSteps = .ok r) : ∃ es, root = .dir es := by
  cases hsteps : p.lookupSteps with
  | nil => exact absurd hsteps (Path.lookupSteps_ne_nil hne)
  | cons c rest =>
      rw [hsteps] at hwalk
      obtain ⟨es, hes⟩ := dir_of_walk_cons hwalk
      exact ⟨es, by simpa using hes⟩

/-- The root directory is found wherever there is one. -/
theorem find_rootDirectory {fs : FileSystem} {es : List (Name × Node)} (hroot : fs.root = .dir es)
    (follow : Bool) : fs.find follow Path.rootDirectory = .ok [] := by
  have hturn : turn fs.root [] [dot] = .ok (.place []) := turn_dot (by rw [hroot, Node.at?_nil])
  refine (find_eq_ok_iff (by decide)).mpr ⟨by decide, Path.maxLinks, ?_⟩
  rw [Path.lookupSteps_rootDirectory, walk_cons, hturn]
  exact walk_nil ..

/-- Where no link stands, an absolute path and its normal form lead to the same entry, and the
normal form is canonical. -/
theorem find_normalize {fs : FileSystem} (hfree : fs.root.LinkFree) {p : Path}
    (habs : p.isAbsolute = true) {follow : Bool} {l : Location}
    (hfind : fs.find follow p = .ok l) :
    p.normalize.IsCanonical ∧ fs.find follow p.normalize = .ok l ∧ (fs.at? l).isSome := by
  have hcanonical := Path.isCanonical_normalize habs
  have hat := at?_of_find habs hfind
  refine ⟨hcanonical, ?_, hat⟩
  obtain ⟨hrefusal, left, hwalk⟩ := (find_eq_ok_iff habs).mp hfind
  obtain ⟨-, -, hshort⟩ := walk_of_plain (hfree.plain [] _) hwalk
  obtain rfl := find_of_plain habs (hfree.plain [] _) hfind
  rw [Path.normalize_of_isAbsolute habs] at hcanonical ⊢
  by_cases hnil : p.location = []
  -- The root is spelled by no name at all, and its lookup is one step that stays.
  · have hne : p.bytes ≠ [] := by
      obtain ⟨bs, hbs⟩ := Path.isAbsolute_iff.mp habs
      simp [hbs]
    obtain ⟨es, hes⟩ := dir_of_walk_lookupSteps hne hwalk
    rw [hnil]
    exact find_rootDirectory hes follow
  · have hnames : ∀ n ∈ p.location, IsName n ∧ n.length ≤ Path.maxName := by
      intro n hn
      have hstep : n ∈ p.lookupSteps := by
        rw [← Path.foldl_step_lookupSteps] at hn
        exact (Path.mem_of_mem_foldl_step hn).resolve_left (by simp)
      exact ⟨Path.isName_location p n hn, hshort n hstep⟩
    refine (find_eq_ok_iff hcanonical.isAbsolute).mpr ⟨?_, Path.maxLinks, ?_⟩
    · rw [← Path.normalize_of_isAbsolute habs]
      exact Path.refusal?_normalize habs hrefusal
    · rw [Path.lookupSteps_ofNames hnil fun n hn => (hnames n hn).1]
      exact walk_names hnames (hfree.plain [] _) hat

/-- A file is found through dots and doubled slashes, and by its canonical text. -/
theorem find_normalize_dotted :
    let fs : FileSystem :=
      ⟨.dir [(Text.toBytes "a", .dir [(Text.toBytes "b", .file 0)])],
        #[⟨.empty, File.defaultMode⟩], none⟩
    let p := Path.ofString "/../a//.././/a/b"
    fs.root.LinkFree ∧ p.isAbsolute = true ∧
      fs.find true p = .ok [Text.toBytes "a", Text.toBytes "b"] ∧
      p.normalize.IsCanonical ∧
      fs.find true p.normalize = .ok [Text.toBytes "a", Text.toBytes "b"] ∧
      (fs.at? [Text.toBytes "a", Text.toBytes "b"]).isSome := by
  intro fs p
  have hfree : fs.root.LinkFree := by decide
  have habs : p.isAbsolute = true := by decide
  have hsteps : p.lookupSteps = ["..", "a", "..", ".", "a", "b"].map Text.toBytes := by decide
  have hfind : fs.find true p = .ok [Text.toBytes "a", Text.toBytes "b"] := by
    refine (find_eq_ok_iff habs).mpr ⟨by decide, Path.maxLinks, ?_⟩
    rw [hsteps]
    cbv
  exact ⟨hfree, habs, hfind, find_normalize hfree habs hfind⟩

end FileSystem

end LuaShell
