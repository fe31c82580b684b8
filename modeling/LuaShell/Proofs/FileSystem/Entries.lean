import LuaShell.FileSystem.Basic
import Mathlib.Data.List.Basic

/-!
# Entries of a tree

What stands where, before and after a change.  `at?` composes along a location, so an
entry can only stand below directories.  `update` reaches what is at and below its
location, and leaves the kind of everything above and the whole of everything beside
it as it was.  All that stands in a tree stands at one of finitely many `locations`, so
that a law of every entry can be decided (`forall_at?_iff`).
-/

namespace LuaShell.Node

/-- An entry without what is below it. -/
def kind : Node → Node
  | .dir _ => .dir []
  | n => n

/-- Nothing in the tree is a link. -/
def LinkFree (root : Node) : Prop :=
  ∀ l target, root.at? l ≠ some (.link target)

@[simp] theorem at?_nil (n : Node) : n.at? [] = some n := by
  cases n <;> rfl

theorem at?_cons (n : Node) (x : Name) (l : Location) :
    n.at? (x :: l) = (n.child? x).bind (·.at? l) := by
  cases n <;> rfl

theorem at?_append (n : Node) (l r : Location) :
    n.at? (l ++ r) = (n.at? l).bind (·.at? r) := by
  induction l generalizing n with
  | nil => simp
  | cons x l ih => simp [at?_cons, ih, Option.bind_assoc]

theorem at?_concat (n : Node) (l : Location) (x : Name) :
    n.at? (l ++ [x]) = (n.at? l).bind (·.child? x) := by
  simp [at?_append, at?_cons]

theorem at?_concat_of_dir {n : Node} {l : Location} {es : List (Name × Node)}
    (hdir : n.at? l = some (.dir es)) (x : Name) : n.at? (l ++ [x]) = es.lookup x := by
  simp [at?_concat, hdir, child?, entries]

/-- What stands in a directory stands at or below one of its entries. -/
theorem mem_of_at?_cons {es : List (Name × Node)} {x : Name} {l : Location} {m : Node}
    (hat : (Node.dir es).at? (x :: l) = some m) : ∃ n, (x, n) ∈ es ∧ n.at? l = some m := by
  rw [at?_cons, Option.bind_eq_some_iff] at hat
  obtain ⟨n, hlookup, hbelow⟩ := hat
  obtain ⟨before, after, hes, -⟩ := List.lookup_eq_some_iff.mp hlookup
  exact ⟨n, by simp [show es = _ from hes], hbelow⟩

/-- At and below a file stands nothing but the file. -/
theorem of_at?_file {id : Nat} {l : Location} {m : Node} (hat : (Node.file id).at? l = some m) :
    l = [] ∧ m = .file id := by
  cases l with
  | nil => exact ⟨rfl, by simpa using hat.symm⟩
  | cons x l => simp [at?_cons, child?, entries] at hat

/-- At and below a name that is not listed nothing stands. -/
theorem at?_of_not_listed {n : Node} {l : Location} {es : List (Name × Node)}
    (hdir : n.at? l = some (.dir es)) {x : Name} (hx : x ∉ es.map (·.1)) (r : Location) :
    n.at? (l ++ x :: r) = none := by
  have hlookup : es.lookup x = none := by
    rw [List.lookup_eq_none_iff]
    intro e he
    have hne : e.1 ≠ x := fun heq => hx (heq ▸ List.mem_map_of_mem he)
    simpa using hne.symm
  simp [at?_append, hdir, at?_cons, child?, entries, hlookup]

/-- What stands below something stands in a directory. -/
theorem dir_of_at?_append {n m : Node} {l : Location} {x : Name} {r : Location}
    (hat : n.at? (l ++ x :: r) = some m) : ∃ es, n.at? l = some (.dir es) := by
  rw [at?_append, Option.bind_eq_some_iff] at hat
  obtain ⟨above, habove, hbelow⟩ := hat
  rw [at?_cons, Option.bind_eq_some_iff] at hbelow
  obtain ⟨child, hchild, -⟩ := hbelow
  cases above with
  | dir es => exact ⟨es, habove⟩
  | file id => simp [child?, entries] at hchild
  | link target => simp [child?, entries] at hchild

/-- Above an entry there are entries. -/
theorem at?_isSome_above {n : Node} {l l' : Location} (hl : l <+: l')
    (hat : (n.at? l').isSome) : (n.at? l).isSome := by
  obtain ⟨r, rfl⟩ := hl
  rw [at?_append] at hat
  exact Option.isSome_of_isSome_bind hat

/-- Above a directory there are directories. -/
theorem dir_above {n : Node} {l l' : Location} {es : List (Name × Node)} (hl : l <+: l')
    (hat : n.at? l' = some (.dir es)) : ∃ es', n.at? l = some (.dir es') := by
  obtain ⟨r, rfl⟩ := hl
  cases r with
  | nil => exact ⟨es, by simpa using hat⟩
  | cons x r => exact dir_of_at?_append hat

theorem kind_eq_dir_iff {n : Node} : n.kind = .dir [] ↔ ∃ es, n = .dir es := by
  cases n <;> simp [kind]

theorem kind_eq_file_iff {n : Node} {id : Nat} : n.kind = .file id ↔ n = .file id := by
  cases n <;> simp [kind]

theorem kind_eq_link_iff {n : Node} {target : Path} :
    n.kind = .link target ↔ n = .link target := by
  cases n <;> simp [kind]

theorem isDir_iff {n : Node} : n.isDir = true ↔ ∃ es, n = .dir es := by
  cases n <;> simp [isDir]

/-! ## Trees without links -/

theorem linkFree_file (id : Nat) : (Node.file id).LinkFree := by
  intro l target hat
  obtain ⟨-, hlink⟩ := of_at?_file hat
  cases hlink

theorem linkFree_dir {es : List (Name × Node)} (hes : ∀ e ∈ es, e.2.LinkFree) :
    (Node.dir es).LinkFree := by
  intro l target hat
  cases l with
  | nil => simp at hat
  | cons x l =>
      obtain ⟨child, hchild, hbelow⟩ := mem_of_at?_cons hat
      exact hes (x, child) hchild l target hbelow

/-! ## All entries of a tree

A tree is finite, so that what is said of all its entries can be evaluated.
-/

mutual

/-- The locations at which something can stand.  An entry counts also where another one of
its name hides it. -/
def locations : Node → List Location
  | .dir es => [] :: locationsBelow es
  | .file _ | .link _ => [[]]

/-- The locations at or below the entries of a directory. -/
def locationsBelow : List (Name × Node) → List Location
  | [] => []
  | (x, n) :: es => (locations n).map (x :: ·) ++ locationsBelow es

end

theorem cons_mem_locationsBelow {es : List (Name × Node)} {x : Name} {n : Node} {l : Location}
    (hn : (x, n) ∈ es) (hl : l ∈ n.locations) : x :: l ∈ locationsBelow es := by
  induction es with
  | nil => cases hn
  | cons e es ih =>
      rw [locationsBelow, List.mem_append]
      rcases List.mem_cons.mp hn with rfl | hrest
      · exact Or.inl (List.mem_map_of_mem hl)
      · exact Or.inr (ih hrest)

/-- Whatever stands in a tree stands at one of its locations. -/
theorem mem_locations {n m : Node} {l : Location} (hat : n.at? l = some m) : l ∈ n.locations := by
  induction l generalizing n with
  | nil => cases n <;> simp [locations]
  | cons x l ih =>
      cases n with
      | dir es =>
          obtain ⟨child, hchild, hbelow⟩ := mem_of_at?_cons hat
          rw [locations]
          exact List.mem_cons_of_mem _ (cons_mem_locationsBelow hchild (ih hbelow))
      | file id => simp [at?_cons, child?, entries] at hat
      | link target => simp [at?_cons, child?, entries] at hat

/-- What holds of all entries is what holds at finitely many locations. -/
theorem forall_at?_iff {n : Node} {p : Location → Node → Prop} :
    (∀ l m, n.at? l = some m → p l m) ↔ ∀ l ∈ n.locations, ∀ m ∈ n.at? l, p l m :=
  ⟨fun h l _ m hm => h l m hm, fun h l m hm => h l (mem_locations hm) m hm⟩

theorem linkFree_iff {root : Node} :
    root.LinkFree ↔ ∀ l ∈ root.locations, ∀ m ∈ root.at? l, m.isLink = false := by
  rw [← forall_at?_iff]
  constructor
  · intro hfree l m hm
    cases m with
    | link target => exact absurd hm (hfree l target)
    | dir es => rfl
    | file id => rfl
  · intro h l target hat
    cases h l _ hat

instance (root : Node) : Decidable root.LinkFree :=
  decidable_of_iff _ linkFree_iff.symm

/-- The places of the files in a tree, each with the number of the file. -/
def files (root : Node) : List (Location × Nat) :=
  root.locations.filterMap fun l => match root.at? l with
    | some (.file id) => some (l, id)
    | _ => none

theorem mem_files_iff {root : Node} {l : Location} {id : Nat} :
    (l, id) ∈ root.files ↔ root.at? l = some (.file id) := by
  rw [files, List.mem_filterMap]
  constructor
  · rintro ⟨l', -, hl'⟩
    split at hl'
    next id' hat =>
      obtain ⟨rfl, rfl⟩ := Prod.mk.inj (Option.some.inj hl')
      exact hat
    next => cases hl'
  · intro hat
    exact ⟨l, mem_locations hat, by simp [hat]⟩

/-! ## Changes -/

theorem lookup_cons_of_ne {x y : Name} (hne : x ≠ y) (n : Node) (es : List (Name × Node)) :
    ((y, n) :: es).lookup x = es.lookup x := by
  have hbeq : (x == y) = false := by simpa using hne
  simp [List.lookup_cons, hbeq]

theorem lookup_map_update (es : List (Name × Node)) (g : Node → Node) (x y : Name) :
    (es.map fun e => if e.1 = x then (e.1, g e.2) else e).lookup y =
      if y = x then (es.lookup x).map g else es.lookup y := by
  induction es with
  | nil => simp
  | cons e es ih =>
      obtain ⟨z, n⟩ := e
      by_cases hz : z = x
      · subst hz
        by_cases hy : y = z
        · simp [hy]
        · simp [lookup_cons_of_ne hy, ih, hy]
      · by_cases hy : y = z
        · simp [hy, hz]
        · simp [hz, lookup_cons_of_ne hy, lookup_cons_of_ne (Ne.symm hz), ih]

/-- At and below the place of a change there is what the change makes of it. -/
theorem at?_update_append (f : Node → Node) (root : Node) (l r : Location) :
    (root.update f l).at? (l ++ r) = (root.at? l).bind fun n => (f n).at? r := by
  induction l generalizing root with
  | nil => simp [update]
  | cons x l ih =>
      cases root with
      | dir es =>
          simp only [List.cons_append, at?_cons, update, child?, entries, lookup_map_update,
            if_true]
          cases es.lookup x with
          | none => rfl
          | some n => simpa using ih n
      | file id => simp [update, at?_cons, child?, entries]
      | link target => simp [update, at?_cons, child?, entries]

/-- Above the place of a change the change is inside of what is there. -/
theorem at?_update_above (f : Node → Node) (root : Node) (l r : Location) :
    (root.update f (l ++ r)).at? l = (root.at? l).map (update f r) := by
  induction l generalizing root with
  | nil => simp
  | cons x l ih =>
      cases root with
      | dir es =>
          simp only [List.cons_append, at?_cons, update, child?, entries, lookup_map_update,
            if_true]
          cases es.lookup x with
          | none => rfl
          | some n => simpa using ih n
      | file id => simp [update, at?_cons, child?, entries]
      | link target => simp [update, at?_cons, child?, entries]

/-- Beside the place of a change nothing changes. -/
theorem at?_update_of_beside (f : Node → Node) (root : Node) {l l' : Location}
    (habove : ¬ l <+: l') (hbelow : ¬ l' <+: l) : (root.update f l).at? l' = root.at? l' := by
  induction l generalizing root l' with
  | nil => exact absurd List.nil_prefix habove
  | cons x l ih =>
      cases l' with
      | nil => exact absurd List.nil_prefix hbelow
      | cons y l' =>
          cases root with
          | dir es =>
              simp only [at?_cons, update, child?, entries, lookup_map_update]
              by_cases hy : y = x
              · subst hy
                simp only [List.cons_prefix_cons, true_and] at habove hbelow
                cases es.lookup y with
                | none => simp
                | some n => simpa using ih n habove hbelow
              · rw [if_neg hy]
          | file id => simp [update]
          | link target => simp [update]

/-! ## One entry more -/

theorem lookup_filter_ne (es : List (Name × Node)) (name x : Name) :
    (es.filter (·.1 ≠ name)).lookup x = if x = name then none else es.lookup x := by
  induction es with
  | nil => simp
  | cons e es ih =>
      obtain ⟨y, n⟩ := e
      by_cases hy : y = name
      · subst hy
        rw [List.filter_cons_of_neg (by simp), ih]
        by_cases hx : x = y
        · simp [hx]
        · simp [lookup_cons_of_ne hx, hx]
      · rw [List.filter_cons_of_pos (by simpa using hy)]
        by_cases hx : x = y
        · simp [hx, hy]
        · rw [lookup_cons_of_ne hx, lookup_cons_of_ne hx, ih]

theorem child?_insert (es : List (Name × Node)) (name : Name) (v : Node) (x : Name) :
    (Node.insert name v (.dir es)).child? x = if x = name then some v else es.lookup x := by
  simp only [insert, child?, entries, List.lookup_append, lookup_filter_ne]
  by_cases hx : x = name
  · simp [hx]
  · simp [lookup_cons_of_ne hx, hx]

theorem child?_erase (n : Node) (name x : Name) :
    (n.erase name).child? x = if x = name then none else n.child? x := by
  cases n with
  | dir es => exact lookup_filter_ne es name x
  | file id => simp [erase, child?, entries]
  | link target => simp [erase, child?, entries]

/-! ## Changes of one child -/

/-- The change leaves the kind of a node and all its children but the one of a name. -/
structure TouchesOnly (name : Name) (f : Node → Node) : Prop where
  kind : ∀ n, (f n).kind = n.kind
  child? : ∀ n x, x ≠ name → (f n).child? x = n.child? x

theorem touchesOnly_insert (name : Name) (v : Node) : TouchesOnly name (insert name v) := by
  refine ⟨fun n => by cases n <;> rfl, fun n x hx => ?_⟩
  cases n with
  | dir es => rw [child?_insert, if_neg hx, child?, entries]
  | file id => rfl
  | link target => rfl

theorem touchesOnly_erase (name : Name) : TouchesOnly name (erase name) :=
  ⟨fun n => by cases n <;> rfl, fun n x hx => by rw [child?_erase, if_neg hx]⟩

/-- Strictly above the place of a change the kind of a node does not change. -/
theorem kind_update_cons (f : Node → Node) (x : Name) (l : Location) (n : Node) :
    (n.update f (x :: l)).kind = n.kind := by
  cases n <;> rfl

/-- A change leaves the kind of everything that is not at or below it. -/
theorem kind_at?_update (f : Node → Node) (root : Node) {l l' : Location} (habove : ¬ l <+: l') :
    ((root.update f l).at? l').map kind = (root.at? l').map kind := by
  by_cases hbelow : l' <+: l
  · obtain ⟨r, rfl⟩ := hbelow
    cases r with
    | nil => exact absurd (by simp) habove
    | cons x r =>
        rw [at?_update_above, Option.map_map]
        exact congrArg (Option.map · _) (funext fun n => kind_update_cons f x r n)
  · rw [at?_update_of_beside f root habove hbelow]

section TouchesOnly

variable {name : Name} {f : Node → Node} (hf : TouchesOnly name f) (root : Node) {l l' : Location}

include hf

/-- Nothing changes that is neither above nor below the child. -/
theorem TouchesOnly.at?_of_beside (habove : ¬ l ++ [name] <+: l') (hbelow : ¬ l' <+: l) :
    (root.update f l).at? l' = root.at? l' := by
  by_cases hl : l <+: l'
  · obtain ⟨r, rfl⟩ := hl
    cases r with
    | nil => exact absurd (by simp) hbelow
    | cons x r =>
        -- Below the changed node, but under another name.
        have hx : x ≠ name := by
          rintro rfl
          exact habove (by simp)
        rw [at?_update_append, at?_append]
        congr 1
        funext n
        rw [at?_cons, at?_cons, hf.child? n x hx]
  · exact at?_update_of_beside f root hl hbelow

/-- The kind of everything that is not at or below the child stays. -/
theorem TouchesOnly.kind_at? (habove : ¬ l ++ [name] <+: l') :
    ((root.update f l).at? l').map Node.kind = (root.at? l').map Node.kind := by
  by_cases hbelow : l' <+: l
  · obtain ⟨r, rfl⟩ := hbelow
    cases r with
    | nil =>
        have hat := at?_update_append f root l' []
        simp only [List.append_nil, at?_nil] at hat ⊢
        cases hroot : root.at? l' with
        | none => simp [hat, hroot]
        | some n => simp [hat, hroot, hf.kind]
    | cons x r => exact kind_at?_update f root fun hunder => absurd hunder.length_le (by simp)
  · rw [hf.at?_of_beside root habove hbelow]

end TouchesOnly

end LuaShell.Node

namespace LuaShell.FileSystem

variable {fs : FileSystem} {l : Location} {es : List (Name × Node)} {name : Name}

/-- Nothing stands at or below a place where nothing stands. -/
theorem not_above_of_none {l l' : Location} (hfree : fs.at? l = none)
    (hat : (fs.at? l').isSome) : ¬ l <+: l' := by
  intro hunder
  have hsome : (fs.at? l).isSome := Node.at?_isSome_above hunder hat
  rw [hfree] at hsome
  cases hsome

/-- A new entry stands where it has been put. -/
theorem at?_insert (hdir : fs.at? l = some (.dir es)) (v : Node) (r : Location) :
    (fs.insert l name v).at? (l ++ name :: r) = v.at? r := by
  have hdir' : fs.root.at? l = some (.dir es) := hdir
  simp [insert, at?, Node.at?_update_append, hdir', Node.at?_cons, Node.child?_insert]

/-- A new entry changes nothing that is neither above nor below it. -/
theorem at?_insert_of_beside (fs : FileSystem) (v : Node) {l' : Location} (habove : ¬ l ++ [name] <+: l')
    (hbelow : ¬ l' <+: l) : (fs.insert l name v).at? l' = fs.at? l' :=
  (Node.touchesOnly_insert name v).at?_of_beside fs.root habove hbelow

/-- A new entry that holds nothing, put where nothing stood, changes only the way to it. -/
theorem at?_insert_of_not_above (hdir : fs.at? l = some (.dir es))
    (hfree : fs.at? (l ++ [name]) = none) {v : Node} (hv : v.entries = []) {l' : Location}
    (hl' : ¬ l' <+: l ++ [name]) : (fs.insert l name v).at? l' = fs.at? l' := by
  by_cases hunder : l ++ [name] <+: l'
  · obtain ⟨r, rfl⟩ := hunder
    cases r with
    | nil => exact absurd (by simp) hl'
    | cons x r =>
        have hold : fs.at? (l ++ [name] ++ x :: r) = none := by
          by_contra hsome
          exact not_above_of_none hfree (Option.isSome_iff_ne_none.mpr hsome) (by simp)
        rw [hold, List.append_assoc, List.singleton_append, at?_insert hdir v]
        simp [Node.at?_cons, Node.child?, hv]
  · exact at?_insert_of_beside fs v hunder fun h => hl' (h.trans (List.prefix_append l [name]))

/-- A new entry leaves the kind of everything that is not at or below it. -/
theorem kind_at?_insert (fs : FileSystem) (v : Node) {l' : Location} (habove : ¬ l ++ [name] <+: l') :
    ((fs.insert l name v).at? l').map Node.kind = (fs.at? l').map Node.kind :=
  (Node.touchesOnly_insert name v).kind_at? fs.root habove

/-- What is put into a directory stands there. -/
theorem at?_insert_self (hdir : fs.at? l = some (.dir es)) (v : Node) :
    (fs.insert l name v).at? (l ++ [name]) = some v := by
  rw [at?_insert hdir, Node.at?_nil]

/-- A file in a directory with a new entry is that entry or stood there before. -/
theorem file_of_insert (hdir : fs.at? l = some (.dir es)) {v : Node} (hv : v.entries = [])
    {l' : Location} {id : Nat} (hat : (fs.insert l name v).at? l' = some (.file id)) :
    (l' = l ++ [name] ∧ v = .file id) ∨ fs.at? l' = some (.file id) := by
  by_cases hunder : l ++ [name] <+: l'
  · obtain ⟨r, rfl⟩ := hunder
    rw [List.append_assoc, List.singleton_append, at?_insert hdir] at hat
    cases r with
    | nil =>
        rw [Node.at?_nil, Option.some.injEq] at hat
        exact Or.inl ⟨by simp, hat⟩
    | cons x r => simp [Node.at?_cons, Node.child?, hv] at hat
  · have hkind := kind_at?_insert fs v hunder
    rw [hat] at hkind
    obtain ⟨m, hm, hfile⟩ := Option.map_eq_some_iff.mp hkind.symm
    rw [Node.kind_eq_file_iff.mp hfile] at hm
    exact Or.inr hm

/-- Taking an entry out leaves the kind of everything that is not at or below it. -/
theorem kind_at?_erase (fs : FileSystem) {l' : Location} (habove : ¬ l ++ [name] <+: l') :
    ((fs.erase l name).at? l').map Node.kind = (fs.at? l').map Node.kind :=
  (Node.touchesOnly_erase name).kind_at? fs.root habove

end LuaShell.FileSystem
