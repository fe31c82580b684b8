import LuaShell.Proofs.FileSystem.Slots
import LuaShell.Proofs.Path.Steps

/-!
# Names pushed onto the path of a directory

When a path leads to a directory, the path with one more name leads on from there by that
name: with the links that are left, and whatever is then done with the entry
(`names_push`).  Only a path that has become too long is refused.
-/

namespace LuaShell

namespace Path

theorem push_empty (n : Name) : Path.empty.push n = ⟨n⟩ := by
  simp [push, join, empty]

theorem endsInSlash_push (p : Path) {n : Name} (hn : IsName n) :
    (p.push n).endsInSlash = false := by
  obtain ⟨front, last, rfl⟩ := List.eq_nil_or_concat' n |>.resolve_left hn.ne_nil
  have hlast : last ≠ slash := fun h => hn.no_slash (by simp [h])
  unfold push join
  rw [if_neg (by simp [isAbsolute_of_isName hn])]
  split <;> simp [endsInSlash, hlast, List.getLast?_append, List.getLast?_cons]

/-- A path that is not refused is refused with one more name only if it is too long then. -/
theorem refusal?_push {p : Path} (hp : p.refusal? = none) {n : Name} (hn : IsName n)
    (hzero : 0 ∉ n) : (p.push n).refusal? =
      if maxLength ≤ (p.push n).bytes.length then some (.system Errno.nameTooLong) else none := by
  have hcontains : p.bytes.contains 0 = false := by
    unfold refusal? at hp
    split at hp
    · cases hp
    · next hfree => exact Bool.eq_false_iff.mpr hfree
  have hbytes : (p.push n).bytes.contains 0 = false ∧ (p.push n).bytes ≠ [] := by
    unfold push join
    rw [if_neg (by simp [isAbsolute_of_isName hn])]
    split <;> simp_all [slash, hn.ne_nil]
  unfold refusal?
  rw [if_neg (by rw [hbytes.1]; simp), if_neg hbytes.2]

end Path

namespace FileSystem

open LuaShell.Path (dot IsName)

/-- A path that stands for the entry `n` of the directory at `l`: whatever it is looked up for, it
is as if `n` had been looked up there, with `left` links to go through. -/
structure Names (fs : FileSystem) (p : Path) (left : Nat) (l : Location) (n : Name) : Prop where
  find : ∀ follow, fs.find follow p =
    ((walk fs.root follow left l [n]).map (·.1)).mapError .system
  findParent : fs.findParent p = .ok (l, .name n false)
  findSlot : fs.findSlot p = (writeSlot fs.root left l ⟨n⟩).mapError .system

/-- The steps before the last ones go through links, whatever is to happen with a last link. -/
theorem walk_append_last {root : Node} {follow : Bool} {links : Nat} {here : Location}
    (ps : List Name) {qs : List Name} (hqs : qs ≠ []) :
    walk root follow links here (ps ++ qs) =
      (walk root true links here ps).bind fun r => walk root follow r.2 r.1 qs := by
  -- Along the recursion of the walk: no link that is met stands last as long as `qs` is to come,
  -- so its own steps are put before those that are left.
  fun_induction walk root true links here ps with
  | case1 => rfl
  | case2 _ _ _ _ _ hturn => rw [List.cons_append, walk_cons, hturn]; rfl
  | case3 _ _ _ _ _ hturn ih => rw [List.cons_append, walk_cons, hturn]; exact ih
  | case4 => simp_all
  | case5 _ _ _ _ hturn => rw [List.cons_append, walk_cons, hturn]; simp [Except.bind, hqs]
  | case6 _ _ _ _ hturn _ _ ih =>
      rw [List.cons_append, walk_cons, hturn]
      simpa [hqs] using ih

/-- A slash behind a path makes no difference to where it leads. -/
theorem walk_steps_of_lookupSteps {root : Node} {links left : Nat} {origin l : Location} {p : Path}
    (hwalk : walk root true links origin p.lookupSteps = .ok (l, left)) :
    walk root true links origin p.steps = .ok (l, left) := by
  unfold Path.lookupSteps at hwalk
  split at hwalk
  · rw [walk_append] at hwalk
    cases hsteps : walk root true links origin p.steps with
    | error e => simp [hsteps, Except.bind] at hwalk
    | ok r =>
        obtain ⟨l', left'⟩ := r
        simp only [hsteps, Except.bind] at hwalk
        rw [walk_cons] at hwalk
        cases hturn : turn root l' [dot] with
        | error e => simp [hturn] at hwalk
        | ok t =>
            obtain ⟨⟨es', hes'⟩, -, n, hn, rfl⟩ := turn_eq_ok_iff.mp hturn
            have hstay : Location.step l' [dot] = l' := by simp [Location.step]
            rw [hstay, hes'] at hn
            cases hn
            simpa [hturn, Turn.onto, hstay, walk_nil] using hwalk
  · exact hwalk

theorem parentFrom_push {root : Node} {links left : Nat} {origin l : Location} {p : Path}
    {es : List (Name × Node)} {n : Name} (hdir : root.at? l = some (.dir es)) (hn : IsName n)
    (hwalk : walk root true links origin p.steps = .ok (l, left)) :
    parentFrom root links origin (p.push n) = .ok (l, left) :=
  parentFrom_eq_ok_iff.mpr ⟨by rwa [Path.steps_push p hn, List.dropLast_concat], es, hdir⟩

theorem lastStep_push (p : Path) {n : Name} (hn : IsName n) :
    lastStep (p.push n) = .name n false := by
  simp [lastStep, Path.steps_push p hn, hn.ne_dot, hn.ne_dots, Path.endsInSlash_push p hn]

/-- The slot of a path is decided in the directory above it. -/
theorem writeSlot_of_parentFrom {root : Node} {links left : Nat} {origin l : Location} {p : Path} :
    parentFrom root links origin p = .ok (l, left) →
    writeSlot root links origin p = match lastStep p with
      | .name n false =>
          if Path.maxName < n.length then .error Errno.nameTooLong
          else match (root.at? l).bind (·.child? n) with
            | some (.link target) => match left with
              | 0 => .error Errno.tooManyLinks
              | k + 1 => writeSlot root k (linkStart target l) target
            | some (.dir _) => .error Errno.isDirectory
            | _ => .ok (l, n)
      | _ => .error Errno.isDirectory := by
  intro hparent
  rw [writeSlot]
  split
  · next hfails => rw [hparent] at hfails; cases hfails
  · next hparent' =>
      obtain ⟨rfl, rfl⟩ := Prod.mk.inj (Except.ok.inj (hparent.symm.trans hparent'))
      cases lastStep p with
      | name n slash =>
          cases slash with
          | true => rfl
          | false =>
              dsimp only
              by_cases hlong : Path.maxName < n.length
              · rw [if_pos hlong, if_pos hlong]
              rw [if_neg hlong, if_neg hlong]
              rcases (root.at? l).bind (·.child? n) with _ | (id | target | es)
              · rfl
              · rfl
              · cases left <;> rfl
              · rfl
      | _ => rfl

/-- With one more name the path of a directory stands for the entry of that name, unless it is too
long then. -/
theorem names_push {fs : FileSystem} {p : Path} {l : Location} {es : List (Name × Node)}
    (hfind : fs.find true p = .ok l) (hdir : fs.at? l = some (.dir es)) {n : Name} (hn : IsName n)
    (hzero : 0 ∉ n) (hshort : (p.push n).bytes.length < Path.maxLength) :
    ∃ left, fs.Names (p.push n) left l n := by
  obtain ⟨hrefusal, origin, left, hstart, hwalk⟩ := find_eq_ok_iff_start.mp hfind
  -- All three lookups go through the directory first, and are left with the name there.
  have hsteps := walk_steps_of_lookupSteps hwalk
  have hstart' : fs.start (p.push n) = .ok origin := by
    rw [← hstart, start, start, Path.isAbsolute_push p hn.no_slash]
  have hrefusal' : (p.push n).refusal? = none := by
    rw [Path.refusal?_push hrefusal hn hzero, if_neg (by omega)]
  have hparent := parentFrom_push hdir hn hsteps
  have hlast := lastStep_push p hn
  refine ⟨left, ⟨fun follow => ?_, ?_, ?_⟩⟩
  · have hlookup : (p.push n).lookupSteps = p.steps ++ [n] := by
      rw [Path.lookupSteps, Path.endsInSlash_push p hn, Path.steps_push p hn]
      rfl
    have hjoined : walk fs.root follow Path.maxLinks origin (p.steps ++ [n]) =
        walk fs.root follow left l [n] := by
      rw [walk_append_last p.steps (by simp), hsteps]
      rfl
    simp only [find, hrefusal', hstart', hlookup, Except.bind, hjoined]
  · exact findParent_eq_ok_iff.mpr ⟨hrefusal', hlast.symm, origin, left, hstart', hparent⟩
  · have halone : parentFrom fs.root left l (Path.empty.push n) = .ok (l, left) :=
      parentFrom_push hdir hn (by simp [Path.empty, Path.steps, Path.parts, walk_nil])
    have hslot : writeSlot fs.root Path.maxLinks origin (p.push n) = writeSlot fs.root left l ⟨n⟩ :=
      by rw [← Path.push_empty n, writeSlot_of_parentFrom hparent, writeSlot_of_parentFrom halone,
        hlast, lastStep_push _ hn]
    simp only [findSlot, hrefusal', hstart', Except.bind, hslot]

namespace Names

variable {fs : FileSystem} {p : Path} {left : Nat} {l : Location} {n : Name} {node : Node}
  {es : List (Name × Node)}

/-- What stands there is what the path leads to; only a link is gone through if that is wanted. -/
theorem find_entry (hnames : fs.Names p left l n) (hdir : fs.at? l = some (.dir es))
    (hn : IsName n) (hshort : n.length ≤ Path.maxName) (hat : fs.at? (l ++ [n]) = some node)
    {follow : Bool} (hlast : follow = false ∨ node.isLink = false) :
    fs.find follow p = .ok (l ++ [n]) := by
  have hstep : l.step n = l ++ [n] := Path.step_of_isName hn l
  have hturn : turn fs.root l n = .ok (.onto (l ++ [n]) node) :=
    turn_eq_ok_iff.mpr ⟨⟨es, hdir⟩, hshort, node, hstep ▸ hat, by rw [hstep]⟩
  have hwalk : walk fs.root follow left l [n] = .ok (l ++ [n], left) := by
    rw [walk_cons, hturn]
    cases node with
    | link target =>
        obtain rfl : follow = false := hlast.resolve_right (by simp [Node.isLink])
        simp [Turn.onto]
    | _ => simp [Turn.onto, walk_nil]
  rw [hnames.find, hwalk]
  rfl

theorem lstat_entry (hnames : fs.Names p left l n) (hdir : fs.at? l = some (.dir es))
    (hn : IsName n) (hshort : n.length ≤ Path.maxName) (hat : fs.at? (l ++ [n]) = some node) :
    fs.lstat p = .ok node := by
  simp only [lstat, hnames.find_entry hdir hn hshort hat (Or.inl rfl), hat]

/-- A file is read by the number that its entry holds. -/
theorem readFile_entry (hnames : fs.Names p left l n) (hdir : fs.at? l = some (.dir es))
    (hn : IsName n) (hshort : n.length ≤ Path.maxName) {id : Nat} {f : File}
    (hat : fs.at? (l ++ [n]) = some (.file id)) (hfile : fs.files[id]? = some f) :
    fs.readFile p = .ok f.bytes := by
  have hfind : fs.find true p = .ok (l ++ [n]) :=
    hnames.find_entry hdir hn hshort hat (Or.inr rfl)
  simp only [readFile, stat, hfind, hat, hfile]

/-- An entry that is no directory can be removed, and no other goes with it. -/
theorem removeFile_entry (hnames : fs.Names p left l n) (hshort : n.length ≤ Path.maxName)
    (hat : fs.at? (l ++ [n]) = some node) (hnode : node.isDir = false) :
    fs.removeFile p = .ok (fs.erase l n) := by
  have hchild : (fs.at? l).bind (·.child? n) = some node := (Node.at?_concat _ _ _).symm.trans hat
  have hentry : fs.entryAt l n = .ok (some node) := by
    rw [entryAt, if_neg (by omega), hchild]
  simp only [removeFile, hnames.findParent, hentry]
  cases node with
  | dir es => cases hnode
  | _ => rfl

end Names

end FileSystem

end LuaShell
