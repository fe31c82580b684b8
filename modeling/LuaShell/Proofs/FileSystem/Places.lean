import LuaShell.Proofs.FileSystem.PlainLookup

/-!
# Places

A path has a place whether anything stands there or not.  What exists of it is looked up
as the system does, through links, and the rest is taken as it is spelled.  For a path
that leads somewhere this is where it leads (`placeOf_of_find`), and for a plain path
it is what the path spells (`placeOf_of_plain`).
-/

namespace LuaShell.FileSystem

/-- Where steps from `here` lead, the rest being taken as spelled from the first step on that
cannot be taken. -/
def place (root : Node) (links : Nat) (here : Location) (path : List Name) : Location :=
  match path with
  | [] => here
  | c :: rest =>
      match turn root here c with
      | .error _ => (c :: rest).foldl Location.step here
      | .ok (.place l) => place root links l rest
      | .ok (.link target) => match links with
        | 0 => (c :: rest).foldl Location.step here
        | n + 1 => place root n (linkStart target here) (target.lookupSteps ++ rest)
termination_by (links, path.length)

/-- The place of an absolute path. -/
def placeOf (fs : FileSystem) (p : Path) : Location :=
  place fs.root Path.maxLinks [] p.lookupSteps

/-- Where a walk ends is the place of its steps. -/
theorem place_of_walk {root : Node} {links left : Nat} {here l : Location} {path : List Name}
    (hwalk : walk root true links here path = .ok (l, left)) :
    place root links here path = l := by
  fun_induction walk root true links here path with
  | case1 =>
      cases hwalk
      rw [place]
  | case2 | case5 => cases hwalk
  | case3 _ _ _ _ _ hturn ih =>
      rw [place, hturn]
      exact ih hwalk
  | case4 => simp_all
  | case6 _ _ _ _ hturn _ _ ih =>
      rw [place, hturn]
      exact ih hwalk

/-- Steps that meet no link have the place that they spell. -/
theorem place_of_plain {root : Node} {links : Nat} {here : Location} {path : List Name}
    (hplain : root.Plain here path) :
    place root links here path = path.foldl Location.step here := by
  induction path generalizing here with
  | nil => simp [place]
  | cons c path ih =>
      rw [place]
      cases hturn : turn root here c with
      | error e => rfl
      | ok t =>
          cases t with
          | link target =>
              obtain ⟨hstep, hlink⟩ := of_turn_link hturn
              exact absurd (hstep ▸ hlink) (hplain.head target)
          | place l =>
              obtain ⟨rfl, -⟩ := of_turn_place hturn
              exact ih hplain.tail

theorem placeOf_of_find {fs : FileSystem} {p : Path} (habs : p.isAbsolute = true) {l : Location}
    (hfind : fs.find true p = .ok l) : fs.placeOf p = l := by
  obtain ⟨-, left, hwalk⟩ := (find_eq_ok_iff habs).mp hfind
  exact place_of_walk hwalk

theorem placeOf_of_plain {fs : FileSystem} {p : Path} (hplain : fs.Plain p) :
    fs.placeOf p = p.location := by
  rw [placeOf, place_of_plain hplain.lookupSteps, Path.foldl_step_lookupSteps]

end LuaShell.FileSystem
