import LuaShell.FileSystem.Tree
import LuaShell.Proofs.FileSystem.PushedName

/-!
# What goes when entries are removed

A removal takes away what stands at and below the entry that its path leads to, the last
link not being gone through, and adds nothing (`Removes`).  That holds of the removal of
one entry (`removes_removeFile`) and of a tree, whether it gets to its end or not
(`removes_removeTree`).  A rename changes nothing or moves one entry (`of_rename`), and a move
leaves all that is neither at or below its source nor at or below its target
(`keepsAt_moveEntry`).
-/

namespace LuaShell.FileSystem

open LuaShell.Path (dot IsName)

/-! ## The last step -/

/-- A path whose last step is a name leads where the name leads from the directory above. -/
theorem find_eq_ok_iff_last {fs : FileSystem} {p : Path} {d : Location} {n : Name} {slash : Bool}
    (hparent : fs.findParent p = .ok (d, .name n slash)) :
    ∃ left, ∀ follow l, fs.find follow p = .ok l ↔
      ∃ left', walk fs.root follow left d (n :: if slash then [[dot]] else []) = .ok (l, left') := by
  obtain ⟨hrefusal, hlast, origin, left, hstart, hfrom⟩ := findParent_eq_ok_iff.mp hparent
  obtain ⟨habove, -⟩ := parentFrom_eq_ok_iff.mp hfrom
  obtain ⟨hsteps, -, hend⟩ := of_lastStep_name hlast.symm
  have hlookup : p.lookupSteps =
      p.steps.dropLast ++ n :: if slash then [[dot]] else [] := by
    rw [Path.lookupSteps, hend, hsteps]
    cases slash <;> simp
  refine ⟨left, fun follow l => ?_⟩
  rw [find_eq_ok_iff_start, hlookup]
  simp only [hrefusal, hstart, true_and, Except.ok.injEq, exists_and_left, exists_eq_left']
  rw [walk_append_last _ (by simp), habove]
  rfl

/-- An entry that a path names is found by it; a slash behind its name asks for a directory, and
a link is found if it is not gone through. -/
theorem find_of_findParent {fs : FileSystem} {p : Path} {d : Location} {n : Name} {slash : Bool}
    (hparent : fs.findParent p = .ok (d, .name n slash)) (hshort : n.length ≤ Path.maxName)
    {v : Node} (hat : fs.at? (d ++ [n]) = some v) (hlast : v.isDir = true ∨ slash = false)
    {follow : Bool} (hfollow : follow = false ∨ v.isLink = false) :
    fs.find follow p = .ok (d ++ [n]) := by
  obtain ⟨left, hfind⟩ := find_eq_ok_iff_last hparent
  obtain ⟨-, hname, origin, left', -, hfrom⟩ := findParent_eq_ok_iff.mp hparent
  obtain ⟨-, hdir⟩ := parentFrom_eq_ok_iff.mp hfrom
  have hstep : d.step n = d ++ [n] := Path.step_of_isName (of_lastStep_name hname.symm).2.1 d
  have hturn : turn fs.root d n = .ok (.onto (d ++ [n]) v) :=
    turn_eq_ok_iff.mpr ⟨hdir, hshort, v, hstep ▸ hat, by rw [hstep]⟩
  refine (hfind follow _).mpr ⟨left, ?_⟩
  rw [walk, hturn]
  cases v with
  | dir es =>
      have hstay : turn fs.root (d ++ [n]) [dot] = .ok (.place (d ++ [n])) := turn_dot hat
      cases slash <;> simp [Turn.onto, walk, hstay]
  | file id =>
      obtain rfl := hlast.resolve_left (by simp [Node.isDir])
      simp [Turn.onto, walk]
  | link target =>
      obtain rfl := hlast.resolve_left (by simp [Node.isDir])
      obtain rfl := hfollow.resolve_right (by simp [Node.isLink])
      simp [Turn.onto]

/-! ## Removals -/

/-- What has gone stood at or below `l`, and nothing is new. -/
structure Removes (before : FileSystem) (l : Location) (after : FileSystem) : Prop where
  keepsAt : ∀ l', ¬ l <+: l' → before.root.KeepsAt after.root l'
  shrinks : ∀ l', after.root.KeepsAt before.root l'

section Removes

variable {fs fs' : FileSystem} {p : Path} {l : Location}

theorem Removes.refl (fs : FileSystem) (l : Location) : Removes fs l fs :=
  ⟨fun _ _ => .of_kind rfl, fun _ => .of_kind rfl⟩

theorem Removes.trans {fs'' : FileSystem} (h : Removes fs l fs') (h' : Removes fs' l fs'') :
    Removes fs l fs'' :=
  ⟨fun l' hl' => (h.keepsAt l' hl').trans (h'.keepsAt l' hl'),
    fun l' => (h'.shrinks l').trans (h.shrinks l')⟩

/-- Whatever stands elsewhere is of the kind that it was. -/
theorem Removes.kind_at? (h : Removes fs l fs') {l' : Location} (hl' : ¬ l <+: l') :
    (fs'.at? l').map Node.kind = (fs.at? l').map Node.kind := by
  cases hbefore : fs.at? l' with
  | some n => exact h.keepsAt l' hl' n hbefore
  | none =>
      cases hafter : fs'.at? l' with
      | none => rfl
      | some m =>
          obtain ⟨n, hn, -⟩ := (h.shrinks l').exists_kind hafter
          exact absurd (hbefore.symm.trans hn) (by simp)

theorem removes_erase (fs : FileSystem) (d : Location) (n : Name) :
    Removes fs (d ++ [n]) (fs.erase d n) := by
  have hkind : ∀ l', ¬ d ++ [n] <+: l' →
      ((fs.erase d n).at? l').map Node.kind = (fs.at? l').map Node.kind := fun l' hl' =>
    kind_at?_erase fs hl'
  refine ⟨fun l' hl' => .of_kind (hkind l' hl'), fun l' => ?_⟩
  by_cases hl' : d ++ [n] <+: l'
  -- At and below the entry there is nothing any more.
  · obtain ⟨r, rfl⟩ := hl'
    intro v hat
    rw [List.append_assoc, erase, Node.at?_update_append] at hat
    simp [Node.at?_cons, Node.child?_erase] at hat
  · exact .of_kind (hkind l' hl').symm

/-- At and below an emptied directory there is an empty one. -/
theorem at?_clear_append {es : List (Name × Node)} (hdir : fs.at? l = some (.dir es))
    (r : Location) : (fs.clear l).at? (l ++ r) = (Node.dir []).at? r := by
  have hdir' : fs.root.at? l = some (.dir es) := hdir
  rw [clear, at?, Node.at?_update_append, hdir', Option.bind_some]

theorem removes_clear {es : List (Name × Node)} (hdir : fs.at? l = some (.dir es)) :
    Removes fs l (fs.clear l) := by
  have hkind : ∀ l', ¬ l <+: l' →
      ((fs.clear l).at? l').map Node.kind = (fs.at? l').map Node.kind := fun l' hl' =>
    Node.kind_at?_update _ fs.root hl'
  refine ⟨fun l' hl' => .of_kind (hkind l' hl'), fun l' => ?_⟩
  by_cases hl' : l <+: l'
  · obtain ⟨r, rfl⟩ := hl'
    intro v hat
    replace hat : (Node.dir []).at? r = some v := (at?_clear_append hdir r).symm.trans hat
    cases r with
    | nil =>
        obtain rfl : .dir [] = v := by simpa using hat
        rw [List.append_nil]
        exact congrArg (Option.map Node.kind) hdir
    | cons x r => simp [Node.at?_cons, Node.child?, Node.entries] at hat
  · exact .of_kind (hkind l' hl').symm

/-- The one entry that a removal takes away is no directory. -/
theorem of_removeFile (hremoved : fs.removeFile p = .ok fs') :
    ∃ d n v, fs.findParent p = .ok (d, .name n false) ∧ n.length ≤ Path.maxName ∧
      fs.at? (d ++ [n]) = some v ∧ v.isDir = false ∧ fs' = fs.erase d n := by
  unfold removeFile at hremoved
  split at hremoved
  · cases hremoved
  · next d n slash hparent =>
      split at hremoved
      · cases hremoved
      · cases hremoved
      · cases hremoved
      · next v hentry hnotDir =>
          obtain ⟨hshort, hat⟩ := entryAt_eq_ok_iff.mp hnotDir
          split at hremoved
          · cases hremoved
          · next hslash =>
              cases hremoved
              obtain rfl : slash = false := by simpa using hslash
              refine ⟨d, n, v, hparent, hshort, hat, ?_, rfl⟩
              cases v with
              | dir es => exact absurd rfl (hentry es)
              | file id => rfl
              | link target => rfl
  · cases hremoved

theorem removes_removeFile (hremoved : fs.removeFile p = .ok fs') :
    ∃ l, fs.find false p = .ok l ∧ Removes fs l fs' := by
  obtain ⟨d, n, v, hparent, hshort, hat, -, rfl⟩ := of_removeFile hremoved
  exact ⟨d ++ [n], find_of_findParent hparent hshort hat (Or.inr rfl) (Or.inl rfl),
    removes_erase fs d n⟩

theorem removes_removeDirectory (hremoved : fs.removeDirectory p = .ok fs') :
    ∃ l, fs.find false p = .ok l ∧ Removes fs l fs' := by
  unfold removeDirectory at hremoved
  split at hremoved
  · cases hremoved
  · next d n slash hparent =>
      split at hremoved
      · cases hremoved
      · cases hremoved
      · next hentry =>
          cases hremoved
          obtain ⟨hshort, hat⟩ := entryAt_eq_ok_iff.mp hentry
          obtain ⟨hkeeps, hshrinks⟩ := removes_erase fs d n
          exact ⟨d ++ [n], find_of_findParent hparent hshort hat (Or.inl rfl) (Or.inl rfl), hkeeps,
            hshrinks⟩
      · cases hremoved
      · cases hremoved
  · cases hremoved
  · cases hremoved
  · cases hremoved

/-- A tree is removed from where its path leads, be it to the end or only in part. -/
theorem removes_removeTree (habs : p.isAbsolute = true) (hfind : fs.find false p = .ok l) :
    Removes fs l (fs.removeTree p).2 := by
  unfold removeTree
  split
  · exact .refl fs l
  · exact .refl fs l
  · cases hremoved : fs.removeFile p with
    | error e => exact .refl fs l
    | ok fs' =>
        obtain ⟨l', hfind', hremoves⟩ := removes_removeFile hremoved
        cases hfind.symm.trans hfind'
        exact hremoves
  · exact .refl fs l
  · next es l' hstat hfind' =>
      cases hfind.symm.trans hfind'
      obtain ⟨l', hfind', hat⟩ := lstat_eq_ok_iff.mp hstat
      cases hfind.symm.trans hfind'
      have hclear := removes_clear hat
      unfold removeEmptied
      split
      · next fs' hremoved =>
          obtain ⟨l', hfind', hremoves⟩ := removes_removeDirectory hremoved
          -- What the path leads to in the emptied directory it led to before.
          have hfind'' := find_of_keepsAt habs (fun l' _ => hclear.shrinks l') hfind'
          cases hfind.symm.trans hfind''
          exact hclear.trans hremoves
      · exact hclear

end Removes

/-! ## Renames -/

/-- A rename that succeeds has found the directories of two names, and has moved the entry of the
one to the other unless both are of one file. -/
theorem of_rename {fs fs' : FileSystem} {source target : Path}
    (hmoved : fs.rename source target = .ok fs') :
    ∃ d n slash d' n' slash', fs.findParent source = .ok (d, .name n slash) ∧
      fs.findParent target = .ok (d', .name n' slash') ∧
      (fs' = fs ∨ ∃ v, fs' = fs.moveEntry d n d' n' v) := by
  unfold rename at hmoved
  split at hmoved
  · cases hmoved
  · cases hmoved
  · next d n slash d' n' slash' hsource htarget =>
      refine ⟨d, n, slash, d', n', slash', hsource, htarget, ?_⟩
      split at hmoved
      · cases hmoved
      · cases hmoved
      · cases hmoved
      · next v old _ _ =>
          split_ifs at hmoved
          · cases hmoved
          · cases hmoved
          · cases hmoved
          split at hmoved
          · cases hmoved
            exact Or.inr ⟨v, rfl⟩
          · split_ifs at hmoved
            · cases hmoved
              exact Or.inl rfl
            split at hmoved
            · cases hmoved
            · cases hmoved
              exact Or.inr ⟨v, rfl⟩
  · cases hmoved

theorem keepsAt_moveEntry (fs : FileSystem) {d d' l : Location} {n n' : Name} (v : Node)
    (hsource : ¬ d ++ [n] <+: l) (htarget : ¬ d' ++ [n'] <+: l) :
    fs.root.KeepsAt (fs.moveEntry d n d' n' v).root l :=
  ((removes_erase fs d n).keepsAt l hsource).trans
    (.of_kind (kind_at?_insert (fs.erase d n) v htarget))

/-! ## Ways to directories -/

section Ways

variable {root : Node} {links left : Nat} {here l d : Location} {n : Name}
  {es : List (Name × Node)} (hdir : root.at? l = some (.dir es))
  (hat : ∀ es, root.at? (d ++ [n]) ≠ some (.dir es))
  (hleads : ∀ links' l' left', walk root true links' d [n] = .ok (l', left') →
    ∀ es, root.at? l' ≠ some (.dir es))

include hdir hat hleads

/-- A way to a directory takes no step onto an entry that is no directory and leads to none. -/
theorem step_ne_of_walk {c : Name} {rest : List Name}
    (hwalk : walk root true links here (c :: rest) = .ok (l, left)) : here.step c ≠ d ++ [n] := by
  intro heq
  obtain ⟨es', hes'⟩ := dir_of_walk_cons hwalk
  by_cases hdot : c = [dot]
  · have hstay : here.step c = here := by simp [Location.step, hdot]
    exact hat es' (heq ▸ hstay.symm ▸ hes')
  by_cases hdots : c = [dot, dot]
  · have hup : here.step c = here.dropLast := by simp [Location.step, hdots]
    obtain ⟨es'', hes''⟩ := Node.dir_above (List.dropLast_prefix here) hes'
    exact hat es'' (heq ▸ hup.symm ▸ hes'')
  · have hdown : here.step c = here ++ [c] := by simp [Location.step, hdot, hdots]
    obtain ⟨rfl, hc⟩ := List.append_inj' (hdown.symm.trans heq) rfl
    obtain rfl : c = n := by simpa using hc
    -- The way goes on from where the entry leads, and that is no directory.
    rw [← List.singleton_append, walk_append] at hwalk
    cases hstep : walk root true links here [c] with
    | error e => simp [hstep, Except.bind] at hwalk
    | ok r =>
        obtain ⟨l', left'⟩ := r
        simp only [hstep, Except.bind] at hwalk
        have hnot := hleads links l' left' hstep
        cases rest with
        | nil =>
            rw [walk] at hwalk
            cases hwalk
            exact hnot es hdir
        | cons c' rest =>
            obtain ⟨es'', hes''⟩ := dir_of_walk_cons hwalk
            exact hnot es'' hes''

theorem not_mem_visited {path : List Name}
    (hwalk : walk root true links here path = .ok (l, left)) :
    d ++ [n] ∉ visited root links here path := by
  have hstep : ∀ {links here c rest}, walk root true links here (c :: rest) = .ok (l, left) →
      d ++ [n] ≠ here.step c := fun hwalk => (step_ne_of_walk hdir hat hleads hwalk).symm
  fun_induction walk root true links here path with
  | case1 => simp [visited]
  | case2 | case5 => cases hwalk
  | case3 _ _ _ _ _ hturn ih =>
      rw [visited_of_place hturn, List.mem_cons, not_or]
      exact ⟨hstep (by rw [walk, hturn]; exact hwalk), ih hwalk⟩
  | case4 => simp_all
  | case6 here c rest target hturn hgo k ih =>
      have hwhole : walk root true (k + 1) here (c :: rest) = .ok (l, left) := by
        rw [walk, hturn]
        simpa [hgo] using hwalk
      rw [visited_of_link hturn, List.mem_cons, not_or]
      exact ⟨hstep hwhole, ih hwalk⟩

end Ways

/-- What is removed as a file stands on no way to a directory, be it a file or a link. -/
theorem keepsAt_removeFile {fs fs' : FileSystem} {p q : Path} (habs : q.isAbsolute = true)
    (hdir : fs.isDirectory q = true) (hexists : fs.pathExists p = true)
    (hfile : fs.isDirectory p = false) (hremoved : fs.removeFile p = .ok fs') :
    ∀ l ∈ fs.passes q, fs.root.KeepsAt fs'.root l := by
  obtain ⟨d, n, v, hparent, -, hat, hnotDir, rfl⟩ := of_removeFile hremoved
  obtain ⟨lq, es, hfind, hes⟩ := isDirectory_iff.mp hdir
  have hv : ∀ es, fs.root.at? (d ++ [n]) ≠ some (.dir es) := by
    intro es' hes'
    cases hat.symm.trans hes'
    cases hnotDir
  have hleads : ∀ links l left, walk fs.root true links d [n] = .ok (l, left) →
      ∀ es, fs.root.at? l ≠ some (.dir es) := by
    intro links l left hwalk es' hes'
    obtain ⟨w, hstat⟩ : ∃ w, fs.stat p = .ok w := by
      unfold pathExists at hexists
      cases hstat : fs.stat p with
      | error e => simp [hstat, Except.isOk, Except.toBool] at hexists
      | ok w => exact ⟨w, rfl⟩
    obtain ⟨l', hl', -⟩ := stat_eq_ok_iff.mp hstat
    obtain ⟨left', hlast⟩ := find_eq_ok_iff_last hparent
    obtain ⟨left'', hwalk'⟩ := (hlast true l').mp hl'
    obtain rfl := walk_unique hwalk hwalk'
    have hisDir := isDirectory_iff.mpr ⟨l', es', hl', hes'⟩
    rw [hfile] at hisDir
    cases hisDir
  intro l hl
  refine (removes_erase fs d n).keepsAt l ?_
  rintro ⟨r, rfl⟩
  cases r with
  | nil =>
      obtain ⟨-, left, hwalk⟩ := (find_eq_ok_iff habs).mp hfind
      rw [List.append_nil, passes, List.mem_cons] at hl
      exact hl.elim (by simp) (not_mem_visited hes hv hleads hwalk)
  | cons x r =>
      have hsome := isSome_of_mem_passes habs hfind _ hl
      obtain ⟨es', hes'⟩ := Node.dir_of_at?_append (Option.some_get hsome).symm
      exact hv es' hes'

end LuaShell.FileSystem
