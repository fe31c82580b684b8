import LuaShell.Proofs.FileSystem.Slots

/-!
# Folding the dots of a way

Two dots lead to the directory above the one that has been reached.  Folded out of the text
they take the name before them away, and that is the same thing unless a link has been gone
through before them.  So a way on which all links come after the last two dots leads where
its folded names lead, with the same links left (`walk_folded`), and the directory of the
last name of such a path can be read off its normal form (`walk_above_of_findParent`).
-/

namespace LuaShell.FileSystem

open LuaShell.Path (dot IsName)

/-- No link is met before two dots; links may follow the last of them. -/
def DotsFirst (root : Node) (path : List Name) : Prop :=
  ∀ cs, cs ++ [[dot, dot]] <+: path → root.Plain [] cs

theorem DotsFirst.of_append {root : Node} {front back : List Name}
    (hdots : DotsFirst root (front ++ back)) : DotsFirst root front :=
  fun cs hcs => hdots cs (hcs.trans (List.prefix_append front back))

/-- The links of a way come after the last two dots if it has a beginning without links and no two
dots behind it. -/
theorem dotsFirst_append {root : Node} {front back : List Name} (hfront : root.Plain [] front)
    (hback : [dot, dot] ∉ back) : DotsFirst root (front ++ back) := by
  intro cs hcs ds hds
  have habove : cs <+: front := by
    rcases List.prefix_or_prefix_of_prefix hcs (List.prefix_append front back) with hin | hout
    · exact (List.prefix_append cs _).trans hin
    · rcases List.prefix_concat_iff.mp hout with rfl | hbefore
      · exact List.prefix_append cs _
      -- The two dots would stand behind the beginning.
      · obtain ⟨more, rfl⟩ := hbefore
        rw [List.append_assoc, List.prefix_append_right_inj] at hcs
        exact absurd (hcs.subset (by simp)) hback
  exact hfront ds (hds.trans habove)

/-- On the way to an entry that is no link there is no link. -/
theorem plain_names {root v : Node} {names : List Name} (hnames : ∀ n ∈ names, IsName n)
    (hat : root.at? names = some v) (hv : v.isLink = false) : root.Plain [] names := by
  intro cs hcs target hlink
  rw [Path.foldl_step_names fun n hn => hnames n (hcs.subset hn), List.nil_append] at hlink
  obtain ⟨rest, rfl⟩ := hcs
  cases rest with
  | nil =>
      rw [List.append_nil, hlink] at hat
      cases hat
      cases hv
  | cons x rest =>
      obtain ⟨es, hes⟩ := Node.dir_of_at?_append hat
      rw [hes] at hlink
      cases hlink

/-- The way to a directory is gone down by its names. -/
theorem walk_names_of_dir {root : Node} {names : List Name} {es : List (Name × Node)}
    (hnames : ∀ n ∈ names, IsName n ∧ n.length ≤ Path.maxName)
    (hdir : root.at? names = some (.dir es)) (links : Nat) :
    walk root true links [] names = .ok (names, links) :=
  walk_names hnames (plain_names (fun n hn => (hnames n hn).1) hdir rfl) (by simp [hdir])

/-- A step by one or two dots goes from a directory to a directory. -/
theorem of_walk_dots {root : Node} {links left : Nat} {here l : Location} {c : Name}
    (hc : c = [dot] ∨ c = [dot, dot]) (hwalk : walk root true links here [c] = .ok (l, left)) :
    (∃ es, root.at? here = some (.dir es)) ∧ l = here.step c ∧ left = links := by
  rw [walk_cons] at hwalk
  cases hturn : turn root here c with
  | error e => simp [hturn] at hwalk
  | ok t =>
      obtain ⟨⟨es, hes⟩, -, n, hn, rfl⟩ := turn_eq_ok_iff.mp hturn
      have hup : here.step c <+: here := by
        rcases hc with rfl | rfl
        · simp [Location.step]
        · simpa [Location.step] using List.dropLast_prefix here
      obtain ⟨es', hes'⟩ := Node.dir_above hup hes
      rw [hes'] at hn
      cases hn
      simp only [hturn, Turn.onto, walk_nil, Except.ok.injEq, Prod.mk.injEq] at hwalk
      exact ⟨⟨es, hes⟩, hwalk.1.symm, hwalk.2.symm⟩

/-- A way on which links come after the last two dots leads where its folded names lead. -/
theorem walk_folded {root : Node} {links left : Nat} {path : List Name} {l : Location}
    (hdots : DotsFirst root path) (hpath : ∀ c ∈ path, c ≠ [] ∧ Path.slash ∉ c)
    (hwalk : walk root true links [] path = .ok (l, left)) :
    walk root true links [] (path.foldl Location.step []) = .ok (l, left) := by
  -- One step more at the end; what was before it leads where its names lead.
  induction path using List.reverseRecOn generalizing l left with
  | nil => exact hwalk
  | append_singleton path c ih =>
      rw [walk_append] at hwalk
      cases hfront : walk root true links [] path with
      | error e => simp [hfront, Except.bind] at hwalk
      | ok r =>
          obtain ⟨here, leftHere⟩ := r
          simp only [hfront, Except.bind] at hwalk
          have hfolded := ih hdots.of_append (fun d hd => hpath d (by simp [hd])) hfront
          rw [List.foldl_concat]
          by_cases hdot : c = [dot]
          · obtain ⟨-, rfl, rfl⟩ := of_walk_dots (Or.inl hdot) hwalk
            simpa [Location.step, hdot] using hfolded
          by_cases hdots' : c = [dot, dot]
          -- No link has been met, so the directory above is spelled by one name less.
          · obtain ⟨⟨es, hes⟩, rfl, rfl⟩ := of_walk_dots (Or.inr hdots') hwalk
            have hplain : root.Plain [] path := hdots path (by rw [hdots'])
            obtain ⟨rfl, rfl, hshort⟩ := walk_of_plain hplain hfront
            have hup : Location.step (path.foldl Location.step []) c <+:
                path.foldl Location.step [] := by
              simpa [Location.step, hdots'] using List.dropLast_prefix _
            obtain ⟨es', hes'⟩ := Node.dir_above hup hes
            refine walk_names_of_dir (fun n hn => ?_) hes' _
            have hmem := hup.subset hn
            have hname := Path.isName_foldl_step (by simp)
              (fun d hd => hpath d (by simp [hd])) n hmem
            have hstep := (Path.mem_of_mem_foldl_step hmem).resolve_left (by simp)
            exact ⟨hname, hshort n hstep⟩
          · have hname : IsName c := by
              obtain ⟨hne, hslash⟩ := hpath c (by simp)
              exact ⟨hne, hslash, hdot, hdots'⟩
            rw [Path.step_of_isName hname, walk_append, hfolded]
            exact hwalk

/-- The directory above the last name of a path is where the names of its normal form lead, but
for the last one. -/
theorem walk_above_of_findParent {fs : FileSystem} {p : Path} (habs : p.isAbsolute = true)
    (hdots : DotsFirst fs.root p.steps) {d : Location} {n : Name} {slash : Bool}
    (hparent : fs.findParent p = .ok (d, .name n slash)) :
    ∃ above left, p.location = above ++ [n] ∧
      walk fs.root true Path.maxLinks [] above = .ok (d, left) := by
  obtain ⟨-, hlast, origin, left, hstart, hfrom⟩ := findParent_eq_ok_iff.mp hparent
  obtain rfl : [] = origin := by simpa [start, habs] using hstart
  obtain ⟨hsteps, hname, -⟩ := of_lastStep_name hlast.symm
  refine ⟨p.steps.dropLast.foldl Location.step [], left, ?_, ?_⟩
  · rw [Path.location, hsteps, List.foldl_concat, Path.step_of_isName hname,
      List.dropLast_concat]
  · rw [hsteps] at hdots
    refine walk_folded hdots.of_append (fun c hc => ?_) (parentFrom_eq_ok_iff.mp hfrom).1
    have hmem := Path.of_mem_steps (List.dropLast_subset _ hc)
    exact ⟨hmem.1, hmem.2.1⟩

end LuaShell.FileSystem
