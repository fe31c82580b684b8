import LuaShell.Command.Files
import LuaShell.Proofs.FileSystem.Emptied

/-!
# What a removal may take away

A removal is contained when it changes nothing but the entry that its path names and what stands
below that, and when that entry has gone if the removal succeeds (`Contained`).  A link counts as
the entry itself, so nothing stands below one.

Not every removal is contained.  Of a link with slashes behind its name it is the directory at its
end that is emptied, and a path that goes down into the directory that it leads to, and comes out
again, is no longer good for anything when the directory has been emptied (`Overreaches`).  In all
other cases removals are contained, whatever links there are and whatever the removal comes to
(`contained_run_iff`).
-/

namespace LuaShell

open FileSystem (Below)

/-- The operations that remove entries. -/
inductive Removal where
  | file
  | directory
  | any
  deriving DecidableEq

namespace Removal

/-- Carry out a removal. -/
def run : Removal → FileSystem → Path → FileCommand.Outcome
  | file => FileCommand.removeFile
  | directory => FileCommand.removeDirectory
  | any => FileCommand.removeAny

end Removal

/-- Nothing has changed but what stands at and below the entry that the path names, and that entry
has gone if the removal has succeeded. -/
structure Contained (fs : FileSystem) (p : Path) (outcome : FileCommand.Outcome) : Prop where
  files : outcome.2.files = fs.files
  kinds : ∀ l', (∀ l, fs.named? p = some l → ¬ l <+: l') →
    (outcome.2.at? l').map Node.kind = (fs.at? l').map Node.kind
  gone : outcome.1 = .ok () → ∃ l, fs.named? p = some l ∧ outcome.2.at? l = none

/-- The path leads to a directory that is emptied, though that is not what the path names, or though
the way to it goes through what is in it. -/
inductive Overreaches (fs : FileSystem) (p : Path) : Prop
  /-- The path names a link to the directory, in which there is something else than the link. -/
  | throughLink {l named : Location} {target : Path} {es : List (Name × Node)} {x : Name}
      (hnamed : fs.named? p = some named) (hlink : fs.at? named = some (.link target))
      (hfind : fs.find false p = .ok l) (hdir : fs.at? l = some (.dir es))
      (hother : (fs.at? (l ++ [x])).isSome) (hne : l ++ [x] ≠ named) : Overreaches fs p
  /-- The way to the directory goes down into it and comes out again. -/
  | throughItself {l l' : Location} {es : List (Name × Node)}
      (hnamed : fs.named? p = some l) (hfind : fs.find false p = .ok l)
      (hdir : fs.at? l = some (.dir es)) (hway : l' ∈ fs.way p) (hbelow : Below l l') :
      Overreaches fs p

section Contained

variable {fs fs' : FileSystem} {p : Path} {l : Location} {es : List (Name × Node)}

theorem Contained.refused (e : CommandError) : Contained fs p (.error e, fs) :=
  ⟨rfl, fun _ _ => rfl, fun h => nomatch h⟩

theorem Contained.of_removeFile (hremoved : fs.removeFile p = .ok fs') :
    Contained fs p (.ok (), fs') := by
  obtain ⟨d, n, v, hparent, -, hat, -, rfl⟩ := FileSystem.of_removeFile hremoved
  have hnamed : fs.named? p = some (d ++ [n]) := by simp only [FileSystem.named?, hparent]
  refine ⟨rfl, fun l' hl' => FileSystem.kind_at?_erase fs (hl' _ hnamed), fun _ =>
    ⟨d ++ [n], hnamed, FileSystem.at?_erase_self fs d n⟩⟩

/-- For a path that names an entry, the removal of an emptied directory is contained if it leaves all
other entries, and the named one has gone when it succeeds. -/
theorem contained_several_iff {named : Location} (hnamed : fs.named? p = some named) :
    Contained fs p (FileCommand.several ((fs.clear l).removeEmptied p)) ↔
      (∀ l', ¬ named <+: l' → (((fs.clear l).removeEmptied p).2.at? l').map Node.kind =
        (fs.at? l').map Node.kind) ∧
      (((fs.clear l).removeEmptied p).1 = .ok () →
        ((fs.clear l).removeEmptied p).2.at? named = none) := by
  have hfiles := FileSystem.files_removeEmptied (fs.clear l) p
  rcases hout : (fs.clear l).removeEmptied p with ⟨e | _, after⟩ <;> rw [hout] at hfiles
  · constructor
    · rintro ⟨-, hkinds, -⟩
      exact ⟨fun l' hl' => hkinds l' (by simpa [hnamed] using hl'), fun h => nomatch h⟩
    · rintro ⟨hkinds, -⟩
      exact ⟨hfiles, fun l' hl' => hkinds l' (hl' named hnamed), fun h => nomatch h⟩
  · constructor
    · rintro ⟨-, hkinds, hgone⟩
      refine ⟨fun l' hl' => hkinds l' (by simpa [hnamed] using hl'), fun _ => ?_⟩
      obtain ⟨l', hl', hnone⟩ := hgone rfl
      cases hnamed.symm.trans hl'
      exact hnone
    · rintro ⟨hkinds, hgone⟩
      exact ⟨hfiles, fun l' hl' => hkinds l' (hl' named hnamed), fun _ => ⟨named, hnamed, hgone rfl⟩⟩

end Contained

namespace Removal

variable {op : Removal} {fs : FileSystem} {p : Path} {l : Location} {es : List (Name × Node)}

/-- What is no directory is removed by itself, or the removal is refused. -/
theorem run_of_not_dir (hnot : op = .file ∨ ∀ l es, fs.find false p = .ok l →
    fs.at? l ≠ some (.dir es)) :
    (∃ e, op.run fs p = (.error e, fs)) ∨
      ∃ fs', fs.removeFile p = .ok fs' ∧ op.run fs p = (.ok (), fs') := by
  have hsingle : ∀ {outcome}, outcome = FileCommand.single fs (fs.removeFile p) →
      (∃ e, outcome = (.error e, fs)) ∨
        ∃ fs', fs.removeFile p = .ok fs' ∧ outcome = (.ok (), fs') := by
    rintro _ rfl
    cases fs.removeFile p with
    | error e => exact .inl ⟨_, rfl⟩
    | ok fs' => exact .inr ⟨fs', rfl, rfl⟩
  cases op with
  | file =>
      rw [show run .file fs p = FileCommand.removeFile fs p from rfl, FileCommand.removeFile]
      split
      · exact .inl ⟨_, rfl⟩
      · split
        · exact .inl ⟨_, rfl⟩
        · exact hsingle rfl
  | directory =>
      have hnot' := hnot.resolve_left (by simp)
      rw [show run .directory fs p = FileCommand.removeDirectory fs p from rfl, FileCommand.removeDirectory]
      split
      · exact .inl ⟨_, rfl⟩
      · split
        · exact .inl ⟨_, rfl⟩
        · unfold FileSystem.removeTree
          split
          · exact .inl ⟨_, rfl⟩
          · exact .inl ⟨_, rfl⟩
          · refine hsingle ?_
            cases fs.removeFile p <;> rfl
          · exact .inl ⟨_, rfl⟩
          · next es l hstat hfind =>
              obtain ⟨l', hfind', hdir⟩ := FileSystem.lstat_eq_ok_iff.mp hstat
              exact absurd hdir (hnot' l' es hfind')
  | any =>
      have hnot' := hnot.resolve_left (by simp)
      rw [show run .any fs p = FileCommand.removeAny fs p from rfl, FileCommand.removeAny]
      split
      · exact .inl ⟨_, rfl⟩
      · next es hstat =>
          obtain ⟨l, hfind, hdir⟩ := FileSystem.lstat_eq_ok_iff.mp hstat
          exact absurd hdir (hnot' l es hfind)
      · exact hsingle rfl

/-- A directory is emptied, and then it is removed itself. -/
theorem run_of_dir (hop : op ≠ .file) (hfind : fs.find false p = .ok l)
    (hdir : fs.at? l = some (.dir es)) :
    op.run fs p = FileCommand.several ((fs.clear l).removeEmptied p) := by
  have hlstat : fs.lstat p = .ok (.dir es) := FileSystem.lstat_eq_ok_iff.mpr ⟨l, hfind, hdir⟩
  have hfollow := FileSystem.find_true_of_not_link hfind (by simp [hdir])
  have htree : fs.removeTree p = (fs.clear l).removeEmptied p := by
    simp only [FileSystem.removeTree, hlstat, hfind]
  cases op with
  | file => exact absurd rfl hop
  | directory =>
      have hexists : fs.pathExists p = true :=
        FileSystem.pathExists_iff.mpr ⟨l, .dir es, hfollow, hdir⟩
      have hisDir : fs.isDirectory p = true :=
        FileSystem.isDirectory_iff.mpr ⟨l, es, hfollow, hdir⟩
      simp [run, FileCommand.removeDirectory, hexists, hisDir, htree]
  | any => simp only [run, FileCommand.removeAny, hlstat, htree]

/-- The directory that a path names is emptied and goes, unless the way to it has gone before. -/
theorem contained_of_named_dir {d : Location} {last : LastStep} (hnamed : fs.named? p = some l)
    (hdir : fs.at? l = some (.dir es)) (hparent : fs.findParent p = .ok (d, last))
    (hlast : ∀ n slash, last = .name n slash → d ++ [n] = l ∧ n.length ≤ Path.maxName) :
    Contained fs p (FileCommand.several ((fs.clear l).removeEmptied p)) ↔
      ∀ l' ∈ fs.way p, ¬ Below l l' := by
  rw [contained_several_iff hnamed]
  constructor
  · rintro ⟨-, hgone⟩ l' hway hbelow
    rw [FileSystem.removeEmptied_clear_of_below hdir hparent ⟨l', hway, hbelow⟩] at hgone
    exact absurd (hgone rfl) (by simp [FileSystem.at?_clear_self hdir])
  · intro hoff
    obtain ⟨hremoves, hgone⟩ := FileSystem.removeEmptied_clear_of_off hdir hparent hlast hoff
    exact ⟨fun l' hl' => hremoves.kind_at? hl', hgone⟩

/-- The directory behind a link is emptied, which is contained only if there is nothing in it but
that link. -/
theorem contained_of_named_link {d : Location} {n : Name} {target : Path}
    (hdir : fs.at? l = some (.dir es)) (hparent : fs.findParent p = .ok (d, .name n true))
    (hlink : fs.at? (d ++ [n]) = some (.link target)) :
    Contained fs p (FileCommand.several ((fs.clear l).removeEmptied p)) ↔
      ∀ x, (fs.at? (l ++ [x])).isSome → l ++ [x] = d ++ [n] := by
  have hnamed : fs.named? p = some (d ++ [n]) := by simp only [FileSystem.named?, hparent]
  obtain ⟨hsame, hgone⟩ := FileSystem.removeEmptied_clear_of_link hdir hparent hlink
  rw [contained_several_iff hnamed, hsame]
  -- Nothing stands below a link, so it is not on the way to the directory.
  have hapart : ¬ d ++ [n] <+: l := by
    rintro ⟨r, rfl⟩
    cases r with
    | nil =>
        rw [List.append_nil] at hdir
        exact absurd (hdir.symm.trans hlink) (by simp)
    | cons x r =>
        obtain ⟨es', hes'⟩ := Node.dir_of_at?_append hdir
        exact absurd (hes'.symm.trans hlink) (by simp)
  constructor
  · rintro ⟨hkinds, -⟩ x hsome
    by_contra hne
    have hbelow : Below l (l ++ [x]) := ⟨List.prefix_append _ _, by simp⟩
    have houtside : ¬ d ++ [n] <+: l ++ [x] := by
      intro habove
      rcases List.prefix_concat_iff.mp habove with heq | habove
      · exact hne heq.symm
      · exact hapart habove
    have hkind := hkinds (l ++ [x]) houtside
    rw [FileSystem.at?_clear_of_below hdir hbelow] at hkind
    simp [Option.isSome_iff_ne_none.mp hsome] at hkind
  · intro honly
    have hunder : ∀ l', Below l l' → (fs.at? l').isSome →
        Below l (d ++ [n]) ∧ d ++ [n] <+: l' := by
      rintro l' ⟨⟨r, rfl⟩, hne⟩ hsome
      cases r with
      | nil => simp at hne
      | cons x r =>
          have hfirst : l ++ [x] <+: l ++ x :: r := ⟨r, by simp⟩
          rw [← honly x (Node.at?_isSome_above hfirst hsome)]
          exact ⟨⟨List.prefix_append _ _, by simp⟩, hfirst⟩
    refine ⟨fun l' hl' => ?_, fun hok => ?_⟩
    · by_cases hbelow : Below l l'
      · have hnone : fs.at? l' = none := by
          by_contra hsome
          exact hl' (hunder l' hbelow (Option.isSome_iff_ne_none.mpr hsome)).2
        rw [FileSystem.at?_clear_of_below hdir hbelow, hnone]
      · exact FileSystem.kind_at?_clear hdir hbelow
    · by_cases hbelow : Below l (d ++ [n])
      · exact FileSystem.at?_clear_of_below hdir hbelow
      · exact hgone (fun l' hway hbelow' =>
          hbelow (hunder l' hbelow' (FileSystem.isSome_of_mem_way hparent hway)).1) hok

/-- A removal is contained unless it is one of a directory that overreaches: for every file system
with links anywhere, and for every path. -/
theorem contained_run_iff (op : Removal) (fs : FileSystem) (p : Path) :
    Contained fs p (op.run fs p) ↔ op = .file ∨ ¬ Overreaches fs p := by
  by_cases hdirs : op ≠ .file ∧ ∃ l es, fs.find false p = .ok l ∧ fs.at? l = some (.dir es)
  -- The directory that is emptied is what the path names, or the path names a link to it.
  · obtain ⟨hop, l, es, hfind, hdir⟩ := hdirs
    rw [run_of_dir hop hfind hdir, or_iff_right hop]
    rcases FileSystem.named_of_find_dir hfind hdir with
      ⟨hnamed, d, last, hparent, hlast⟩ | ⟨d, n, target, hparent, hnamed, hlink⟩
    · rw [contained_of_named_dir hnamed hdir hparent hlast]
      constructor
      · rintro hoff (⟨hnamed', hlink, -, -, -, -⟩ | ⟨hnamed', -, -, hway, hbelow⟩)
        · cases hnamed.symm.trans hnamed'
          cases hdir.symm.trans hlink
        · cases hnamed.symm.trans hnamed'
          exact hoff _ hway hbelow
      · exact fun hnot l' hway hbelow => hnot (.throughItself hnamed hfind hdir hway hbelow)
    · rw [contained_of_named_link hdir hparent hlink]
      constructor
      · rintro honly (⟨hnamed', -, hfind', -, hother, hne⟩ | ⟨hnamed', hfind', -, -, -⟩)
        · cases hnamed.symm.trans hnamed'
          cases hfind.symm.trans hfind'
          exact hne (honly _ hother)
        · cases hfind.symm.trans hfind'
          cases hnamed.symm.trans hnamed'
          cases hdir.symm.trans hlink
      · intro hnot x hother
        by_contra hne
        exact hnot (.throughLink hnamed hlink hfind hdir hother hne)
  -- No directory is emptied, so what goes is one entry, and that is the named one.
  · have hnot : op = .file ∨ ∀ l es, fs.find false p = .ok l → fs.at? l ≠ some (.dir es) := by
      refine or_iff_not_imp_left.mpr fun hop l es hfind hdir => hdirs ⟨hop, l, es, hfind, hdir⟩
    refine iff_of_true ?_ (hnot.imp_right fun hnodir => ?_)
    · rcases run_of_not_dir hnot with ⟨e, hrun⟩ | ⟨fs', hremoved, hrun⟩
      · rw [hrun]
        exact .refused e
      · rw [hrun]
        exact .of_removeFile hremoved
    · rintro (⟨-, -, hfind, hdir, -, -⟩ | ⟨-, hfind, hdir, -, -⟩)
      · exact hnodir _ _ hfind hdir
      · exact hnodir _ _ hfind hdir

/-- With a slash behind the name of a link, what the link leads to is emptied; then the removal
fails, and the link is still there. -/
theorem removeAny_link_with_slash :
    let d := Text.toBytes "d"
    let f := Text.toBytes "f"
    let l := Text.toBytes "l"
    let fs : FileSystem :=
      ⟨.dir [(d, .dir [(f, .file 0)]), (l, .link (Path.ofString "d"))],
        #[⟨"x".toUTF8, File.defaultMode⟩], none⟩
    let p := Path.ofString "/l/"
    let after : FileSystem :=
      ⟨.dir [(d, .dir []), (l, .link (Path.ofString "d"))], #[⟨"x".toUTF8, File.defaultMode⟩], none⟩
    fs.named? p = some [l] ∧
      any.run fs p = (.error (.io (.system Errno.notDirectory)), after) ∧
      ¬ Contained fs p (any.run fs p) := by
  intro d f l fs p after
  have hnamed : fs.named? p = some [l] := by cbv
  have hrun : any.run fs p = (.error (.io (.system Errno.notDirectory)), after) := by cbv
  refine ⟨hnamed, hrun, fun hcontained => ?_⟩
  have hkind := hcontained.kinds [d, f] (by
    rw [hnamed]
    decide)
  have hbefore : fs.at? [d, f] = some (.file 0) := by cbv
  have hafter : after.at? [d, f] = none := by cbv
  rw [hrun, hbefore, hafter] at hkind
  cases hkind

/-- A directory that its path comes out of again is emptied and stays, and that counts as a
success. -/
example :
    let d := Text.toBytes "d"
    let fs : FileSystem := ⟨.dir [(d, .dir [(Text.toBytes "s", .dir [])])], #[], none⟩
    any.run fs (Path.ofString "/d/s/..") = (.ok (), ⟨.dir [(d, .dir [])], #[], none⟩) := by cbv

end Removal

end LuaShell
