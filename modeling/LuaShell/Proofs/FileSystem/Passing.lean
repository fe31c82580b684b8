import LuaShell.Proofs.FileSystem.PlainLookup

/-!
# What a lookup passes

A lookup depends on the kinds of the entries that it passes and on nothing else in the tree.
So it leads to the same place in any other tree that has kept those entries
(`walk_of_keepsAt`), and passes the same on the way there (`visited_of_keepsAt`).  The links
that are left decide how far a lookup gets, but not where it ends (`walk_unique`).
-/

namespace LuaShell

/-- What stands at `l` in the first tree stands there in the second and is of the same kind. -/
def Node.KeepsAt (before after : Node) (l : Location) : Prop :=
  ∀ n, before.at? l = some n → (after.at? l).map Node.kind = some n.kind

namespace Node.KeepsAt

variable {a b c : Node} {l : Location}

theorem of_kind (hkind : (b.at? l).map Node.kind = (a.at? l).map Node.kind) : a.KeepsAt b l := by
  intro n hat
  rw [hkind, hat, Option.map_some]

theorem exists_kind (hkeeps : a.KeepsAt b l) {n : Node} (hat : a.at? l = some n) :
    ∃ m, b.at? l = some m ∧ m.kind = n.kind :=
  Option.map_eq_some_iff.mp (hkeeps n hat)

theorem dir (hkeeps : a.KeepsAt b l) {es : List (Name × Node)} (hat : a.at? l = some (.dir es)) :
    ∃ es', b.at? l = some (.dir es') := by
  obtain ⟨m, hm, hkind⟩ := hkeeps.exists_kind hat
  obtain ⟨es', rfl⟩ := kind_eq_dir_iff.mp hkind
  exact ⟨es', hm⟩

theorem trans (hab : a.KeepsAt b l) (hbc : b.KeepsAt c l) : a.KeepsAt c l := by
  intro n hat
  obtain ⟨m, hm, hkind⟩ := hab.exists_kind hat
  rw [← hkind]
  exact hbc m hm

end Node.KeepsAt

namespace FileSystem

/-- The places that steps from `here` come to, one after the other, and those of the links that
they are led through. -/
def visited (root : Node) (links : Nat) (here : Location) (path : List Name) : List Location :=
  match path with
  | [] => []
  | c :: rest =>
      here.step c :: match turn root here c with
        | .error _ => []
        | .ok (.place l) => visited root links l rest
        | .ok (.link target) => match links with
          | 0 => []
          | n + 1 => visited root n (linkStart target here) (target.lookupSteps ++ rest)
termination_by (links, path.length)

/-- The places that the lookup of an absolute path passes, from the root to its end. -/
def passes (fs : FileSystem) (p : Path) : List Location :=
  [] :: visited fs.root Path.maxLinks [] p.lookupSteps

/-! ## Places that a walk comes to -/

section Visited

variable {root : Node} {links : Nat} {here l : Location} {c : Name} {rest : List Name}

theorem visited_cons : here.step c ∈ visited root links here (c :: rest) := by
  rw [visited]
  exact List.mem_cons_self ..

theorem visited_of_place (hturn : turn root here c = .ok (.place l)) :
    visited root links here (c :: rest) = here.step c :: visited root links l rest := by
  rw [visited, hturn]

theorem visited_of_link {target : Path} (hturn : turn root here c = .ok (.link target)) :
    visited root (links + 1) here (c :: rest) =
      here.step c :: visited root links (linkStart target here) (target.lookupSteps ++ rest) := by
  rw [visited, hturn]

/-- Whatever a walk passes that has got somewhere is there. -/
theorem isSome_of_mem_visited {path : List Name} {r : Location × Nat}
    (hwalk : walk root true links here path = .ok r) :
    ∀ l ∈ visited root links here path, (root.at? l).isSome := by
  have hstep : ∀ {here c t}, turn root here c = .ok t → (root.at? (here.step c)).isSome := by
    intro here c t hturn
    obtain ⟨-, -, n, hn, -⟩ := turn_eq_ok_iff.mp hturn
    simp [hn]
  fun_induction walk root true links here path with
  | case1 => simp [visited]
  | case2 | case5 => cases hwalk
  | case3 _ _ _ _ _ hturn ih =>
      rw [visited_of_place hturn, List.forall_mem_cons]
      exact ⟨hstep hturn, ih hwalk⟩
  | case4 => simp_all
  | case6 _ _ _ _ hturn _ _ ih =>
      rw [visited_of_link hturn, List.forall_mem_cons]
      exact ⟨hstep hturn, ih hwalk⟩

/-- A walk ends where it has begun, at the root or at a place that it has come to. -/
theorem mem_visited_of_walk {path : List Name} {left : Nat}
    (hwalk : walk root true links here path = .ok (l, left)) :
    l = [] ∨ l = here ∨ l ∈ visited root links here path := by
  fun_induction walk root true links here path with
  | case1 =>
      cases hwalk
      exact Or.inr (Or.inl rfl)
  | case2 | case5 => cases hwalk
  | case3 _ _ _ _ _ hturn ih =>
      obtain ⟨rfl, -⟩ := of_turn_place hturn
      rw [visited_of_place hturn, List.mem_cons]
      exact (ih hwalk).imp_right Or.inr
  | case4 => simp_all
  | case6 _ _ _ _ hturn _ _ ih =>
      rw [visited_of_link hturn, List.mem_cons]
      rcases ih hwalk with hroot | hstart | hlater
      · exact Or.inl hroot
      -- What a link holds is followed from the root or from where the link has been met.
      · unfold linkStart at hstart
        split at hstart
        · exact Or.inl hstart
        · exact Or.inr (Or.inl hstart)
      · exact Or.inr (Or.inr (Or.inr hlater))

/-- Two walks along the same steps that get to an end get to the same one. -/
theorem walk_unique {path : List Name} {links' left left' : Nat} {l' : Location}
    (hwalk : walk root true links here path = .ok (l, left))
    (hwalk' : walk root true links' here path = .ok (l', left')) : l' = l := by
  fun_induction walk root true links here path generalizing links' with
  | case1 =>
      rw [walk] at hwalk'
      cases hwalk
      cases hwalk'
      rfl
  | case2 | case5 => cases hwalk
  | case3 _ _ _ _ _ hturn ih =>
      rw [walk, hturn] at hwalk'
      exact ih hwalk hwalk'
  | case4 => simp_all
  | case6 _ _ _ _ hturn _ _ ih =>
      rw [walk, hturn] at hwalk'
      cases links' with
      | zero => simp at hwalk'
      | succ links' => exact ih hwalk (by simpa using hwalk')

end Visited

/-! ## Trees that keep what is passed -/

section Kept

variable {a b : Node} {links : Nat} {here : Location} {path : List Name} {r : Location × Nat}

theorem turn_of_keepsAt {c : Name} {t : Turn} (hhere : a.KeepsAt b here)
    (hthere : a.KeepsAt b (here.step c)) (hturn : turn a here c = .ok t) :
    turn b here c = .ok t := by
  obtain ⟨⟨es, hes⟩, hshort, n, hn, ht⟩ := turn_eq_ok_iff.mp hturn
  obtain ⟨m, hm, hkind⟩ := hthere.exists_kind hn
  refine turn_eq_ok_iff.mpr ⟨hhere.dir hes, hshort, m, hm, ?_⟩
  rw [ht]
  -- Of a directory only the kind is kept, but a step shows no more than the kind.
  cases n with
  | file id => rw [Node.kind_eq_file_iff.mp hkind]
  | link target => rw [Node.kind_eq_link_iff.mp hkind]
  | dir es' =>
      obtain ⟨es'', rfl⟩ := Node.kind_eq_dir_iff.mp hkind
      rfl

theorem keepsAt_linkStart (hroot : a.KeepsAt b []) (hhere : a.KeepsAt b here) (target : Path) :
    a.KeepsAt b (linkStart target here) := by
  unfold linkStart
  split
  · exact hroot
  · exact hhere

/-- A walk that has got somewhere gets there in any tree that has kept what it passes. -/
theorem walk_of_keepsAt {follow : Bool} (hroot : a.KeepsAt b []) (hhere : a.KeepsAt b here)
    (hvisited : ∀ l ∈ visited a links here path, a.KeepsAt b l)
    (hwalk : walk a follow links here path = .ok r) : walk b follow links here path = .ok r := by
  fun_induction walk a follow links here path with
  | case1 => simpa [walk] using hwalk
  | case2 | case5 => cases hwalk
  | case3 _ _ _ _ _ hturn ih =>
      obtain ⟨rfl, -⟩ := of_turn_place hturn
      rw [walk, turn_of_keepsAt hhere (hvisited _ visited_cons) hturn]
      rw [visited_of_place hturn, List.forall_mem_cons] at hvisited
      exact ih hvisited.1 hvisited.2 hwalk
  | case4 _ _ _ _ _ hturn hstop =>
      rw [walk, turn_of_keepsAt hhere (hvisited _ visited_cons) hturn]
      simpa [hstop] using hwalk
  | case6 _ _ _ _ hturn hgo _ ih =>
      rw [walk, turn_of_keepsAt hhere (hvisited _ visited_cons) hturn]
      rw [visited_of_link hturn, List.forall_mem_cons] at hvisited
      simpa [hgo] using ih (keepsAt_linkStart hroot hhere _) hvisited.2 hwalk

/-- It passes the same places there. -/
theorem visited_of_keepsAt (hroot : a.KeepsAt b []) (hhere : a.KeepsAt b here)
    (hvisited : ∀ l ∈ visited a links here path, a.KeepsAt b l)
    (hwalk : walk a true links here path = .ok r) :
    visited b links here path = visited a links here path := by
  fun_induction walk a true links here path with
  | case1 => simp [visited]
  | case2 | case5 => cases hwalk
  | case3 _ _ _ _ _ hturn ih =>
      obtain ⟨rfl, -⟩ := of_turn_place hturn
      rw [visited_of_place (turn_of_keepsAt hhere (hvisited _ visited_cons) hturn)]
      rw [visited_of_place hturn, List.forall_mem_cons] at hvisited
      rw [visited_of_place hturn, ih hvisited.1 hvisited.2 hwalk]
  | case4 => simp_all
  | case6 _ _ _ _ hturn _ _ ih =>
      rw [visited_of_link (turn_of_keepsAt hhere (hvisited _ visited_cons) hturn)]
      rw [visited_of_link hturn, List.forall_mem_cons] at hvisited
      rw [visited_of_link hturn, ih (keepsAt_linkStart hroot hhere _) hvisited.2 hwalk]

end Kept

/-! ## Lookups -/

section Lookups

variable {fs fs' : FileSystem} {p : Path} {l : Location}

theorem isDirectory_iff :
    fs.isDirectory p = true ↔ ∃ l es, fs.find true p = .ok l ∧ fs.at? l = some (.dir es) := by
  unfold isDirectory
  cases hstat : fs.stat p with
  | error e =>
      refine iff_of_false (by simp) ?_
      rintro ⟨l, es, hfind, hat⟩
      have hstat' := stat_eq_ok_iff.mpr ⟨l, hfind, hat⟩
      rw [hstat] at hstat'
      cases hstat'
  | ok n =>
      obtain ⟨l, hfind, hat⟩ := stat_eq_ok_iff.mp hstat
      simp only [hfind, Except.ok.injEq, exists_and_left, exists_eq_left', hat, Option.some.injEq]
      cases n <;> simp [Node.isDir]

theorem pathExists_iff :
    fs.pathExists p = true ↔ ∃ l v, fs.find true p = .ok l ∧ fs.at? l = some v := by
  unfold pathExists
  cases hstat : fs.stat p with
  | error e =>
      simp only [Except.isOk, Except.toBool, Bool.false_eq_true, false_iff]
      rintro ⟨l, v, hfind, hat⟩
      rw [stat_eq_ok_iff.mpr ⟨l, hfind, hat⟩] at hstat
      cases hstat
  | ok v =>
      obtain ⟨l, hfind, hat⟩ := stat_eq_ok_iff.mp hstat
      exact iff_of_true rfl ⟨l, v, hfind, hat⟩

/-- What a lookup leads to is passed at the end. -/
theorem mem_passes_of_find (habs : p.isAbsolute = true) (hfind : fs.find true p = .ok l) :
    l ∈ fs.passes p := by
  obtain ⟨-, left, hwalk⟩ := (find_eq_ok_iff habs).mp hfind
  rcases mem_visited_of_walk hwalk with rfl | rfl | hend
  · exact List.mem_cons_self ..
  · exact List.mem_cons_self ..
  · exact List.mem_cons_of_mem _ hend

/-- Whatever a lookup passes that leads somewhere is there. -/
theorem isSome_of_mem_passes (habs : p.isAbsolute = true) (hfind : fs.find true p = .ok l) :
    ∀ l' ∈ fs.passes p, (fs.at? l').isSome := by
  obtain ⟨-, left, hwalk⟩ := (find_eq_ok_iff habs).mp hfind
  rw [passes, List.forall_mem_cons]
  exact ⟨by simp [at?], isSome_of_mem_visited hwalk⟩

variable (habs : p.isAbsolute = true) (hkeeps : ∀ l ∈ fs.passes p, fs.root.KeepsAt fs'.root l)

include habs hkeeps

theorem find_of_keepsAt {follow : Bool} (hfind : fs.find follow p = .ok l) :
    fs'.find follow p = .ok l := by
  obtain ⟨hrefusal, left, hwalk⟩ := (find_eq_ok_iff habs).mp hfind
  rw [passes, List.forall_mem_cons] at hkeeps
  exact (find_eq_ok_iff habs).mpr
    ⟨hrefusal, left, walk_of_keepsAt hkeeps.1 hkeeps.1 hkeeps.2 hwalk⟩

theorem passes_of_keepsAt (hfind : fs.find true p = .ok l) : fs'.passes p = fs.passes p := by
  obtain ⟨-, left, hwalk⟩ := (find_eq_ok_iff habs).mp hfind
  rw [passes, List.forall_mem_cons] at hkeeps
  rw [passes, passes, visited_of_keepsAt hkeeps.1 hkeeps.1 hkeeps.2 hwalk]

/-- A directory is found as long as everything that its lookup passes is kept. -/
theorem isDirectory_of_keepsAt (hdir : fs.isDirectory p = true) : fs'.isDirectory p = true := by
  obtain ⟨l, es, hfind, hat⟩ := isDirectory_iff.mp hdir
  obtain ⟨es', hes'⟩ := (hkeeps l (mem_passes_of_find habs hfind)).dir hat
  exact isDirectory_iff.mpr ⟨l, es', find_of_keepsAt habs hkeeps hfind, hes'⟩

end Lookups

end FileSystem

end LuaShell
