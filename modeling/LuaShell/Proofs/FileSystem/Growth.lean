import LuaShell.FileSystem.Edit
import LuaShell.Proofs.FileSystem.Passing

/-!
# File systems that grow

A file system grows when files and directories are added: whatever stood still stands
and is of the same kind, and no link is new.  Putting one entry where nothing stood is
growth (`growsTo_insert`), and what a lookup has found before it still finds afterwards
(`find_of_growsTo`).
-/

namespace LuaShell

/-- What stood in the first tree stands in the second and is of the same kind, and the second
has no links that the first has not. -/
structure Node.GrowsTo (before after : Node) : Prop where
  keeps : ∀ {l n}, before.at? l = some n → (after.at? l).map Node.kind = some n.kind
  noLinks : ∀ {l target}, after.at? l = some (.link target) → before.at? l = some (.link target)

/-- The tree grows, and relative paths start from the same directory. -/
structure FileSystem.GrowsTo (before after : FileSystem) : Prop where
  root : before.root.GrowsTo after.root
  here : after.here = before.here

namespace Node.GrowsTo

variable {a b c : Node}

theorem refl (a : Node) : a.GrowsTo a :=
  ⟨fun hat => by rw [hat]; rfl, fun hat => hat⟩

theorem keepsAt (hgrow : a.GrowsTo b) (l : Location) : a.KeepsAt b l :=
  fun _ hat => hgrow.keeps hat

theorem exists_kind (hgrow : a.GrowsTo b) {l : Location} {n : Node} (hat : a.at? l = some n) :
    ∃ m, b.at? l = some m ∧ m.kind = n.kind :=
  (hgrow.keepsAt l).exists_kind hat

theorem trans (hab : a.GrowsTo b) (hbc : b.GrowsTo c) : a.GrowsTo c :=
  ⟨fun hat => (hab.keepsAt _).trans (hbc.keepsAt _) _ hat,
    fun hat => hab.noLinks (hbc.noLinks hat)⟩

theorem dir (hgrow : a.GrowsTo b) {l : Location} {es : List (Name × Node)}
    (hat : a.at? l = some (.dir es)) : ∃ es', b.at? l = some (.dir es') :=
  (hgrow.keepsAt l).dir hat

theorem file (hgrow : a.GrowsTo b) {l : Location} {id : Nat}
    (hat : a.at? l = some (.file id)) : b.at? l = some (.file id) := by
  obtain ⟨m, hm, hkind⟩ := hgrow.exists_kind hat
  rw [hm, kind_eq_file_iff.mp hkind]

theorem link (hgrow : a.GrowsTo b) {l : Location} {target : Path}
    (hat : a.at? l = some (.link target)) : b.at? l = some (.link target) := by
  obtain ⟨m, hm, hkind⟩ := hgrow.exists_kind hat
  rw [hm, kind_eq_link_iff.mp hkind]

/-- What is missing afterwards was missing before. -/
theorem none_of_none (hgrow : a.GrowsTo b) {l : Location} (hat : b.at? l = none) :
    a.at? l = none := by
  cases h : a.at? l with
  | none => rfl
  | some n =>
      have := hgrow.keeps h
      simp [hat] at this

theorem linkFree (hgrow : a.GrowsTo b) (hfree : a.LinkFree) : b.LinkFree :=
  fun l target hlink => hfree l target (hgrow.noLinks hlink)

theorem plain (hgrow : a.GrowsTo b) {here : Location} {path : List Name}
    (hplain : a.Plain here path) : b.Plain here path :=
  fun cs hcs target hlink => hplain cs hcs target (hgrow.noLinks hlink)

end Node.GrowsTo

namespace FileSystem

open LuaShell.Path (IsName)

theorem GrowsTo.refl (fs : FileSystem) : fs.GrowsTo fs :=
  ⟨Node.GrowsTo.refl fs.root, rfl⟩

theorem GrowsTo.trans {a b c : FileSystem} (hab : a.GrowsTo b) (hbc : b.GrowsTo c) :
    a.GrowsTo c :=
  ⟨hab.root.trans hbc.root, hbc.here.trans hab.here⟩

/-! ## One entry more -/

/-- A file system grows by an entry without links where nothing stood. -/
theorem growsTo_insert {fs : FileSystem} {l : Location} {es : List (Name × Node)} {name : Name}
    {v : Node} (hdir : fs.at? l = some (.dir es)) (hfree : fs.at? (l ++ [name]) = none)
    (hv : v.LinkFree) : fs.GrowsTo (fs.insert l name v) := by
  refine ⟨⟨?_, ?_⟩, rfl⟩
  · intro l' n hat
    have hat' : fs.at? l' = some n := hat
    have hbeside : ¬ l ++ [name] <+: l' := not_above_of_none hfree (by simp [hat'])
    have hkind := kind_at?_insert fs v hbeside
    rw [hat'] at hkind
    exact hkind
  -- A link in the grown tree is not in what is new, so it was there before.
  · intro l' target hlink
    by_cases hunder : l ++ [name] <+: l'
    · obtain ⟨r, rfl⟩ := hunder
      have hat : (fs.insert l name v).at? (l ++ name :: r) = v.at? r := at?_insert hdir v r
      rw [show l ++ [name] ++ r = l ++ name :: r by simp] at hlink
      rw [show (fs.insert l name v).at? (l ++ name :: r) = some (.link target) from hlink] at hat
      exact absurd hat.symm (hv r target)
    · have hkind := kind_at?_insert fs v hunder
      rw [show (fs.insert l name v).at? l' = some (.link target) from hlink] at hkind
      obtain ⟨n, hn, hlinkKind⟩ := Option.map_eq_some_iff.mp hkind.symm
      rw [Node.kind_eq_link_iff.mp hlinkKind] at hn
      exact hn

/-! ## Lookups while it grows -/

/-- A walk that has got somewhere gets there in the grown tree too. -/
theorem walk_of_growsTo {a b : Node} (hgrow : a.GrowsTo b) {follow : Bool} {links : Nat}
    {here : Location} {path : List Name} {r : Location × Nat}
    (hwalk : walk a follow links here path = .ok r) : walk b follow links here path = .ok r :=
  walk_of_keepsAt (hgrow.keepsAt []) (hgrow.keepsAt here) (fun l _ => hgrow.keepsAt l) hwalk

theorem start_of_growsTo {fs fs' : FileSystem} (hgrow : fs.GrowsTo fs') (p : Path) :
    fs'.start p = fs.start p := by
  simp [start, hgrow.here]

theorem find_of_growsTo {fs fs' : FileSystem} (hgrow : fs.GrowsTo fs') {follow : Bool}
    {p : Path} {l : Location} (hfind : fs.find follow p = .ok l) :
    fs'.find follow p = .ok l := by
  obtain ⟨hrefusal, origin, left, hstart, hwalk⟩ := find_eq_ok_iff_start.mp hfind
  exact find_eq_ok_iff_start.mpr ⟨hrefusal, origin, left,
    by rw [start_of_growsTo hgrow, hstart], walk_of_growsTo hgrow.root hwalk⟩

/-- A file that is found is found in the grown file system too. -/
theorem stat_file_of_growsTo {fs fs' : FileSystem} (hgrow : fs.GrowsTo fs') {p : Path}
    {id : Nat} (hstat : fs.stat p = .ok (.file id)) : fs'.stat p = .ok (.file id) := by
  obtain ⟨l, hfind, hat⟩ := stat_eq_ok_iff.mp hstat
  exact stat_eq_ok_iff.mpr ⟨l, find_of_growsTo hgrow hfind, hgrow.root.file hat⟩

theorem pathExists_of_growsTo {fs fs' : FileSystem} (hgrow : fs.GrowsTo fs') {p : Path}
    (hexists : fs.pathExists p = true) : fs'.pathExists p = true := by
  obtain ⟨l, v, hfind, hat⟩ := pathExists_iff.mp hexists
  obtain ⟨v', hat', -⟩ := hgrow.root.exists_kind hat
  exact pathExists_iff.mpr ⟨l, v', find_of_growsTo hgrow hfind, hat'⟩

end FileSystem

end LuaShell
