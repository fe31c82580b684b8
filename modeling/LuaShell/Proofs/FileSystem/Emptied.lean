import LuaShell.Proofs.FileSystem.Removal

/-!
# Lookups in a tree with an emptied directory

When a directory has been emptied, a lookup that goes down into it and comes out again gets no
further than the first place below it (`walk_clear_of_below`), and any other lookup goes on as before.
So the directory above the last step of a path is either the same, or it is said to be missing
(`findParent_clear_of_off`, `findParent_clear_of_below`).

What a path to a directory names is that directory, or else a link to it with slashes behind its
name (`named_of_find_dir`).
-/

namespace LuaShell.FileSystem

open LuaShell.Path (dot IsName)

/-- A place strictly below another one. -/
def Below (l l' : Location) : Prop :=
  l <+: l' ∧ l' ≠ l

theorem not_below_nil (l : Location) : ¬ Below l [] := by
  rintro ⟨habove, hne⟩
  exact hne (List.prefix_nil.mp habove).symm

/-! ## The emptied directory -/

section Clear

variable {fs : FileSystem} {l l' : Location} {es : List (Name × Node)}
  (hdir : fs.at? l = some (.dir es))

include hdir

theorem at?_clear_self : (fs.clear l).at? l = some (.dir []) := by
  simpa using at?_clear_append hdir []

theorem at?_clear_of_below (hbelow : Below l l') : (fs.clear l).at? l' = none := by
  obtain ⟨⟨r, rfl⟩, hne⟩ := hbelow
  rw [at?_clear_append hdir]
  cases r with
  | nil => simp at hne
  | cons x r => simp [Node.at?_cons, Node.child?, Node.entries]

theorem kind_at?_clear (hoff : ¬ Below l l') :
    ((fs.clear l).at? l').map Node.kind = (fs.at? l').map Node.kind := by
  by_cases hself : l' = l
  · rw [hself, at?_clear_self hdir, hdir]
    rfl
  · exact Node.kind_at?_update _ fs.root fun habove => hoff ⟨habove, hself⟩

theorem keepsAt_clear (hoff : ¬ Below l l') : fs.root.KeepsAt (fs.clear l).root l' :=
  .of_kind (kind_at?_clear hdir hoff)

omit hdir in
/-- Relative paths start where they did unless that was below the directory. -/
theorem start_clear {p : Path} {origin : Location} (hstart : fs.start p = .ok origin) :
    (¬ Below l origin → (fs.clear l).start p = .ok origin) ∧
      (Below l origin → (fs.clear l).start p = .error Errno.noEntry) := by
  unfold start at hstart ⊢
  by_cases habs : p.isAbsolute = true
  · rw [if_pos habs] at hstart ⊢
    cases hstart
    exact ⟨fun _ => rfl, fun hbelow => absurd hbelow (not_below_nil l)⟩
  · rw [if_neg habs] at hstart ⊢
    cases hhere : fs.here with
    | none => simp [hhere] at hstart
    | some h =>
        obtain rfl : h = origin := by simpa [hhere] using hstart
        constructor
        · intro hoff
          have hkept : h = l ∨ l.isPrefixOf h = false := by
            by_contra hgone
            simp only [not_or, Bool.not_eq_false, List.isPrefixOf_iff_prefix] at hgone
            exact hoff ⟨hgone.2, hgone.1⟩
          simp [clear, hhere, Option.filter, hkept]
        · rintro ⟨habove, hne⟩
          have hgone : l.isPrefixOf h = true := List.isPrefixOf_iff_prefix.mpr habove
          simp [clear, hhere, Option.filter, hgone, hne]

/-- A walk that comes below the directory finds nothing there any more. -/
theorem walk_clear_of_below {links : Nat} {here : Location} {path : List Name}
    {r : Location × Nat} (hoff : ¬ Below l here)
    (hwalk : walk fs.root true links here path = .ok r)
    (hbelow : ∃ l' ∈ visited fs.root links here path, Below l l') :
    walk (fs.clear l).root true links here path = .error Errno.noEntry := by
  -- The first place below the directory is one step from a place that is still there.
  have hmissing : ∀ {here c t}, ¬ Below l here → turn fs.root here c = .ok t →
      Below l (here.step c) → turn (fs.clear l).root here c = .error Errno.noEntry := by
    intro here c t hoff hturn hbelow
    obtain ⟨⟨es', hes'⟩, hshort, -⟩ := turn_eq_ok_iff.mp hturn
    obtain ⟨es'', hes''⟩ := (keepsAt_clear hdir hoff).dir hes'
    have hnone : (fs.clear l).root.at? (here.step c) = none := at?_clear_of_below hdir hbelow
    rw [turn_of_dir hes'' hshort, hnone]
  have hkept : ∀ {here c t}, ¬ Below l here → turn fs.root here c = .ok t →
      ¬ Below l (here.step c) → turn (fs.clear l).root here c = .ok t := fun hoff hturn hoff' =>
    turn_of_keepsAt (keepsAt_clear hdir hoff) (keepsAt_clear hdir hoff') hturn
  fun_induction walk fs.root true links here path with
  | case1 => simp [visited] at hbelow
  | case2 | case5 => cases hwalk
  | case3 links here c rest l' hturn ih =>
      by_cases hstep : Below l (here.step c)
      · rw [walk, hmissing hoff hturn hstep]
      · obtain ⟨rfl, -⟩ := of_turn_place hturn
        rw [visited_of_place hturn] at hbelow
        rw [walk, hkept hoff hturn hstep]
        exact ih hstep hwalk (by simpa [hstep] using hbelow)
  | case4 => simp_all
  | case6 here c rest target hturn hgo k ih =>
      by_cases hstep : Below l (here.step c)
      · rw [walk, hmissing hoff hturn hstep]
      · rw [visited_of_link hturn] at hbelow
        rw [walk, hkept hoff hturn hstep]
        have hstart : ¬ Below l (linkStart target here) := by
          unfold linkStart
          split
          · exact not_below_nil l
          · exact hoff
        simpa [hgo] using ih hstart hwalk (by simpa [hstep] using hbelow)

end Clear

/-! ## The directory above the last step -/

/-- The places that are passed on the way to the directory in which the last step is taken. -/
def way (fs : FileSystem) (p : Path) : List Location :=
  match fs.start p with
  | .error _ => []
  | .ok origin => origin :: visited fs.root Path.maxLinks origin p.steps.dropLast

theorem mem_way_iff {fs : FileSystem} {p : Path} {origin l : Location}
    (hstart : fs.start p = .ok origin) :
    l ∈ fs.way p ↔ l = origin ∨ l ∈ visited fs.root Path.maxLinks origin p.steps.dropLast := by
  simp [way, hstart]

section FindParent

variable {fs : FileSystem} {p : Path} {l d : Location} {last : LastStep}
  {es : List (Name × Node)} (hdir : fs.at? l = some (.dir es))
  (hparent : fs.findParent p = .ok (d, last))

include hdir hparent

theorem findParent_clear_of_off (hoff : ∀ l' ∈ fs.way p, ¬ Below l l') :
    (fs.clear l).findParent p = .ok (d, last) := by
  obtain ⟨hrefusal, hlast, origin, left, hstart, hfrom⟩ := findParent_eq_ok_iff.mp hparent
  obtain ⟨hwalk, es', hes'⟩ := parentFrom_eq_ok_iff.mp hfrom
  simp only [mem_way_iff hstart, forall_eq_or_imp] at hoff
  have hroot := keepsAt_clear hdir (not_below_nil l)
  have horigin := keepsAt_clear hdir hoff.1
  have hvisited := fun l' hl' => keepsAt_clear hdir (hoff.2 l' hl')
  have hkept : fs.root.KeepsAt (fs.clear l).root d := by
    rcases mem_visited_of_walk hwalk with rfl | rfl | hd
    · exact hroot
    · exact horigin
    · exact hvisited d hd
  exact findParent_eq_ok_iff.mpr ⟨hrefusal, hlast, origin, left, (start_clear hstart).1 hoff.1,
    parentFrom_eq_ok_iff.mpr ⟨walk_of_keepsAt hroot horigin hvisited hwalk, hkept.dir hes'⟩⟩

theorem findParent_clear_of_below (hbelow : ∃ l' ∈ fs.way p, Below l l') :
    (fs.clear l).findParent p = .error (.system Errno.noEntry) := by
  obtain ⟨hrefusal, hlast, origin, left, hstart, hfrom⟩ := findParent_eq_ok_iff.mp hparent
  obtain ⟨hwalk, -⟩ := parentFrom_eq_ok_iff.mp hfrom
  simp only [mem_way_iff hstart, exists_eq_or_imp] at hbelow
  unfold findParent
  rw [hrefusal]
  by_cases horigin : Below l origin
  · simp [(start_clear hstart).2 horigin, Except.bind, Except.map, Except.mapError]
  · have hmissing := walk_clear_of_below hdir horigin hwalk (hbelow.resolve_left horigin)
    simp [(start_clear hstart).1 horigin, parentFrom, hmissing, Except.bind, Except.map,
      Except.mapError]

end FindParent

/-! ## What a path names -/

/-- The entry that a path names is the one of its last name, whether that is a link or not.  A path
that ends in dots or is nothing but slashes names the directory that it leads to. -/
def named? (fs : FileSystem) (p : Path) : Option Location :=
  match fs.findParent p with
  | .error _ => none
  | .ok (d, .name n _) => some (d ++ [n])
  | .ok _ => (fs.find true p).toOption

/-- What a lookup ends at is the same for one that goes through the last link if that is none. -/
theorem walk_true_of_not_link {root : Node} {links left : Nat} {here l : Location}
    {path : List Name} (hwalk : walk root false links here path = .ok (l, left))
    (hlink : ∀ target, root.at? l ≠ some (.link target)) :
    walk root true links here path = .ok (l, left) := by
  fun_induction walk root false links here path with
  | case1 => simpa [walk] using hwalk
  | case2 | case5 => cases hwalk
  | case3 _ _ _ _ _ hturn ih =>
      rw [walk, hturn]
      exact ih hwalk
  | case4 _ _ _ _ target hturn =>
      cases hwalk
      exact absurd (of_turn_link hturn).2 (hlink target)
  | case6 _ _ _ _ hturn hgo _ ih =>
      rw [walk, hturn]
      simpa using ih hwalk

theorem find_true_of_not_link {fs : FileSystem} {p : Path} {l : Location}
    (hfind : fs.find false p = .ok l) (hlink : ∀ target, fs.at? l ≠ some (.link target)) :
    fs.find true p = .ok l := by
  obtain ⟨hrefusal, origin, left, hstart, hwalk⟩ := find_eq_ok_iff_start.mp hfind
  exact find_eq_ok_iff_start.mpr
    ⟨hrefusal, origin, left, hstart, walk_true_of_not_link hwalk hlink⟩

/-- All steps of a path but the last one lead to a directory if the path leads anywhere. -/
theorem exists_findParent_of_find {fs : FileSystem} {p : Path} {follow : Bool} {l : Location}
    (hfind : fs.find follow p = .ok l) : ∃ d, fs.findParent p = .ok (d, lastStep p) := by
  obtain ⟨hrefusal, origin, left, hstart, hwalk⟩ := find_eq_ok_iff_start.mp hfind
  have hne : p.bytes ≠ [] := by
    intro hnil
    simp [Path.refusal?, hnil] at hrefusal
  obtain ⟨tail, hsplit, htail⟩ : ∃ tail, p.lookupSteps = p.steps.dropLast ++ tail ∧ tail ≠ [] := by
    have hsome := Path.lookupSteps_ne_nil hne
    rcases List.eq_nil_or_concat p.steps with hnil | ⟨front, n, hsteps⟩
    · exact ⟨p.lookupSteps, by simp [hnil], hsome⟩
    · refine ⟨n :: if p.endsInSlash then [[dot]] else [], ?_, by simp⟩
      rw [Path.lookupSteps, hsteps]
      cases p.endsInSlash <;> simp
  rw [hsplit, walk_append_last _ htail] at hwalk
  cases habove : walk fs.root true Path.maxLinks origin p.steps.dropLast with
  | error e => simp [habove, Except.bind] at hwalk
  | ok r =>
      obtain ⟨c, rest, rfl⟩ := List.exists_cons_of_ne_nil htail
      rw [habove] at hwalk
      have hdir := dir_of_walk_cons (hwalk : walk fs.root follow r.2 r.1 (c :: rest) = _)
      exact ⟨r.1, findParent_eq_ok_iff.mpr ⟨hrefusal, rfl, origin, r.2, hstart,
        parentFrom_eq_ok_iff.mpr ⟨habove, hdir⟩⟩⟩

/-- A path that leads to a directory names it, unless it names a link to it with slashes behind the
name of the link. -/
theorem named_of_find_dir {fs : FileSystem} {p : Path} {l : Location} {es : List (Name × Node)}
    (hfind : fs.find false p = .ok l) (hdir : fs.at? l = some (.dir es)) :
    (fs.named? p = some l ∧ ∃ d last, fs.findParent p = .ok (d, last) ∧
      ∀ n slash, last = .name n slash → d ++ [n] = l ∧ n.length ≤ Path.maxName) ∨
    ∃ d n target, fs.findParent p = .ok (d, .name n true) ∧ fs.named? p = some (d ++ [n]) ∧
      fs.at? (d ++ [n]) = some (.link target) := by
  obtain ⟨d, hparent⟩ := exists_findParent_of_find hfind
  have hfollow : fs.find true p = .ok l := find_true_of_not_link hfind (by simp [hdir])
  cases hlast : lastStep p with
  | name n slash =>
      rw [hlast] at hparent
      have hnamed : fs.named? p = some (d ++ [n]) := by simp only [named?, hparent]
      obtain ⟨left, hlasts⟩ := find_eq_ok_iff_last hparent
      obtain ⟨left', hwalk⟩ := (hlasts false l).mp hfind
      rw [walk] at hwalk
      cases hturn : turn fs.root d n with
      | error e => simp [hturn] at hwalk
      | ok t =>
          obtain ⟨-, hshort, -⟩ := turn_eq_ok_iff.mp hturn
          have hstep : d.step n = d ++ [n] :=
            Path.step_of_isName (of_lastStep_name hlast).2.1 d
          cases t with
          | place l' =>
              obtain ⟨rfl, -⟩ := of_turn_place hturn
              -- A slash behind the name is a step that stays.
              have hplace : d ++ [n] = l := by
                simp only [hturn, hstep] at hwalk
                cases slash with
                | false =>
                    have hend : d ++ [n] = l ∧ left = left' := by simpa [walk] using hwalk
                    exact hend.1
                | true =>
                    obtain ⟨es', hes'⟩ := dir_of_walk_cons hwalk
                    have hend : d ++ [n] = l ∧ left = left' := by
                      simpa [walk, turn_dot hes'] using hwalk
                    exact hend.1
              refine .inl ⟨hplace ▸ hnamed, d, _, hparent, ?_⟩
              rintro _ _ ⟨⟩
              exact ⟨hplace, hshort⟩
          | link target =>
              obtain ⟨-, hlink⟩ := of_turn_link hturn
              cases slash with
              | true => exact .inr ⟨d, n, target, hparent, hnamed, hlink⟩
              | false =>
                  obtain ⟨rfl, -⟩ : d ++ [n] = l ∧ left = left' := by simpa [hturn] using hwalk
                  exact absurd (hdir.symm.trans hlink) (by simp)
  | _ =>
      rw [hlast] at hparent
      exact .inl ⟨by simp [named?, hparent, hfollow, Except.toOption], d, _, hparent, by simp⟩

/-! ## The removal of the emptied directory -/

theorem at?_erase_self (fs : FileSystem) (d : Location) (n : Name) :
    (fs.erase d n).at? (d ++ [n]) = none := by
  rw [erase, at?, Node.at?_update_append]
  cases fs.root.at? d <;> simp [Node.at?_cons, Node.child?_erase]

theorem files_removeEmptied (fs : FileSystem) (p : Path) :
    (fs.removeEmptied p).2.files = fs.files := by
  unfold removeEmptied
  split
  · next fs' hremoved =>
      unfold removeDirectory at hremoved
      repeat' split at hremoved
      all_goals cases hremoved
      rfl
  · rfl

/-- What is no directory is not removed as one; that is no failure if nothing is there. -/
theorem removeEmptied_of_not_dir {fs : FileSystem} {p : Path} {d : Location} {n : Name}
    {slash : Bool} (hparent : fs.findParent p = .ok (d, .name n slash))
    (hnot : ∀ es, fs.at? (d ++ [n]) ≠ some (.dir es)) :
    (fs.removeEmptied p).2 = fs ∧
      ((fs.removeEmptied p).1 = .ok () → fs.at? (d ++ [n]) = none) := by
  by_cases hlong : Path.maxName < n.length
  · have hentry : fs.entryAt d n = .error (.system Errno.nameTooLong) := by
      rw [entryAt, if_pos hlong]
    simp [removeEmptied, removeDirectory, hparent, hentry, isMissing, Errno.nameTooLong,
      Errno.noEntry]
  · have hentry : fs.entryAt d n = .ok (fs.at? (d ++ [n])) :=
      entryAt_eq_ok_iff.mpr ⟨by omega, rfl⟩
    cases hat : fs.at? (d ++ [n]) with
    | none => simp [removeEmptied, removeDirectory, hparent, hentry, hat, refuse]
    | some v =>
        cases v with
        | dir es => exact absurd hat (hnot es)
        | _ =>
            simp [removeEmptied, removeDirectory, hparent, hentry, hat, refuse, isMissing,
              Errno.notDirectory, Errno.noEntry]

section RemoveEmptied

variable {fs : FileSystem} {p : Path} {l d : Location} {es : List (Name × Node)}
  (hdir : fs.at? l = some (.dir es))

include hdir

/-- When the directory is still found where it has been, it is removed, or it stays because the path
ends in dots. -/
theorem removeEmptied_clear_of_off {last : LastStep} (hparent : fs.findParent p = .ok (d, last))
    (hlast : ∀ n slash, last = .name n slash → d ++ [n] = l ∧ n.length ≤ Path.maxName)
    (hoff : ∀ l' ∈ fs.way p, ¬ Below l l') :
    Removes fs l ((fs.clear l).removeEmptied p).2 ∧
      (((fs.clear l).removeEmptied p).1 = .ok () →
        ((fs.clear l).removeEmptied p).2.at? l = none) := by
  have hparent' := findParent_clear_of_off hdir hparent hoff
  have hremoves := removes_clear hdir
  cases last with
  | name n slash =>
      obtain ⟨rfl, hshort⟩ := hlast n slash rfl
      have hentry : (fs.clear (d ++ [n])).entryAt d n = .ok (some (.dir [])) :=
        entryAt_eq_ok_iff.mpr ⟨hshort, at?_clear_self hdir⟩
      simp only [removeEmptied, removeDirectory, hparent', hentry]
      obtain ⟨hkeeps, hshrinks⟩ := hremoves.trans (removes_erase (fs.clear (d ++ [n])) d n)
      exact ⟨⟨hkeeps, hshrinks⟩, fun _ => at?_erase_self (fs.clear (d ++ [n])) d n⟩
  | current =>
      simp only [removeEmptied, removeDirectory, hparent', refuse]
      exact ⟨hremoves, by simp [isMissing, Errno.invalid, Errno.noEntry]⟩
  | parent =>
      simp only [removeEmptied, removeDirectory, hparent', refuse]
      exact ⟨hremoves, by simp [isMissing, Errno.notEmpty, Errno.noEntry]⟩
  | root =>
      simp only [removeEmptied, removeDirectory, hparent', refuse]
      exact ⟨hremoves, by simp [isMissing, Errno.busy, Errno.noEntry]⟩

/-- When the way to the directory has gone with what was in it, the directory stays behind, and that
is no failure. -/
theorem removeEmptied_clear_of_below {last : LastStep} (hparent : fs.findParent p = .ok (d, last))
    (hbelow : ∃ l' ∈ fs.way p, Below l l') :
    (fs.clear l).removeEmptied p = (.ok (), fs.clear l) := by
  simp only [removeEmptied, removeDirectory, findParent_clear_of_below hdir hparent hbelow]
  rfl

/-- When the path names a link to the directory, the directory stays behind. -/
theorem removeEmptied_clear_of_link {n : Name} {target : Path}
    (hparent : fs.findParent p = .ok (d, .name n true))
    (hlink : fs.at? (d ++ [n]) = some (.link target)) :
    ((fs.clear l).removeEmptied p).2 = fs.clear l ∧
      ((∀ l' ∈ fs.way p, ¬ Below l l') → ((fs.clear l).removeEmptied p).1 = .ok () →
        (fs.clear l).at? (d ++ [n]) = none) := by
  by_cases hoff : ∀ l' ∈ fs.way p, ¬ Below l l'
  · obtain ⟨hsame, hgone⟩ := removeEmptied_of_not_dir (findParent_clear_of_off hdir hparent hoff)
      fun es' hes' => by
        -- A link is not turned into a directory.
        obtain ⟨m, hm, hkind⟩ := ((removes_clear hdir).shrinks (d ++ [n])).exists_kind hes'
        obtain rfl : m = .link target := Option.some.inj (hm.symm.trans hlink)
        cases hkind
    exact ⟨hsame, fun _ => hgone⟩
  · push Not at hoff
    refine ⟨by rw [removeEmptied_clear_of_below hdir hparent hoff], fun hoff' => ?_⟩
    obtain ⟨l', hway, hbelow⟩ := hoff
    exact absurd hbelow (hoff' l' hway)

end RemoveEmptied

/-- What stands on the way of a path is there. -/
theorem isSome_of_mem_way {fs : FileSystem} {p : Path} {d l : Location} {last : LastStep}
    (hparent : fs.findParent p = .ok (d, last)) (hl : l ∈ fs.way p) : (fs.at? l).isSome := by
  obtain ⟨-, -, origin, left, hstart, hfrom⟩ := findParent_eq_ok_iff.mp hparent
  obtain ⟨hwalk, es, hes⟩ := parentFrom_eq_ok_iff.mp hfrom
  rcases (mem_way_iff hstart).mp hl with rfl | hvisited
  · cases hsteps : p.steps.dropLast with
    | nil =>
        rw [hsteps, walk] at hwalk
        cases hwalk
        simp [at?, hes]
    | cons c rest =>
        rw [hsteps] at hwalk
        obtain ⟨es', hes'⟩ := dir_of_walk_cons hwalk
        simp [at?, hes']
  · exact isSome_of_mem_visited hwalk l hvisited

end LuaShell.FileSystem
