import LuaShell.Proofs.Copy.Descent
import LuaShell.Proofs.FileSystem.Places

/-!
# Copies of a directory into itself

The refusal compares what the two paths spell.  That is where they lead as long as no link
is met, and then a copy is refused exactly if its target is at or below the directory.
Through a link the two differ, and a directory can be copied onto itself, where every file
in it is emptied.  A copy that is apart from its source changes nothing in it, and every
directory that it goes down to was there before the copy began.
-/

namespace LuaShell

namespace FileSystem

open LuaShell.Path (IsName ofNames)

/-- A copy to a new place that is spelled canonically, not at or below the source, is apart. -/
theorem apart_of_missing {fs : FileSystem} {source target : Path} (hsource : fs.Plain source)
    (htarget : fs.Plain target) (hcanonical : target.IsCanonical)
    (hthere : (fs.at? source.location).isSome) (hmissing : fs.at? target.location = none)
    (houtside : ¬ source.location <+: target.location) : fs.Apart source target := by
  obtain ⟨names, hnames, rfl⟩ := Path.isCanonical_iff.mp hcanonical
  refine ⟨hsource, htarget, houtside, ?_, ?_, ?_⟩
  · intro cs hcs _ hunder
    rw [Path.location_ofNames hnames] at houtside
    rw [Path.steps_ofNames hnames] at hcs
    rw [Path.foldl_step_names fun n hn => hnames n (hcs.subset hn)] at hunder
    exact houtside (hunder.trans hcs)
  · intro d es hd
    exact absurd (hd ▸ List.prefix_append _ d) (not_above_of_none hmissing hthere)
  · intro r path _ hlink
    have hat : (fs.at? ((ofNames names).location ++ r)).isSome := by rw [hlink]; rfl
    exact absurd (List.prefix_append _ r) (not_above_of_none hmissing hat)

end FileSystem

namespace FileCommand

open LuaShell.FileSystem

/-- Copying a directory is refused for what the paths spell, and for nothing else. -/
theorem copy_refused_iff {fs : FileSystem} {source target : Path}
    (hsource : source.isAbsolute = true) (htarget : target.isAbsolute = true)
    (hdir : fs.isDirectory source = true) :
    copy fs source target = (.error (.copyIntoItself source), fs) ↔
      source.location <+: target.location := by
  rw [← Path.normalize_startsWith_iff htarget hsource]
  cases hstarts : target.normalize.startsWith source.normalize with
  | true => simp [copy, hdir, hstarts, refuse]
  | false =>
      rcases hcopied : fs.copyTree source target with ⟨answer, fs'⟩
      cases answer with
      | ok => simp [copy, hdir, hstarts, hcopied, several]
      | error e => simp [copy, hdir, hstarts, hcopied, several]

/-- A copy that is apart from the directory that it copies leaves it as it was, and goes down to
nothing but directories that were there before. -/
theorem copy_apart {fs : FileSystem} (hsound : fs.Sound) {source target : Path}
    (hsource : source.isAbsolute = true) (htarget : target.isAbsolute = true)
    {es : List (Name × Node)} (hdir : fs.at? source.location = some (.dir es))
    (hapart : fs.Apart source target) :
    (fs.copyTree source target).2.at? source.location = fs.at? source.location ∧
      ∀ call, Relation.ReflTransGen TreeCopy.Enters
          ⟨Path.maxLength + 1, fs, source, target⟩ call →
        ∀ l, call.files.find true call.source = .ok l → ∃ es', fs.at? l = some (.dir es') := by
  have hkept : Kept fs source.location fs := Kept.refl hsound (by rw [hdir]; rfl)
  have htrail := Trail.nil hsource htarget
  have hdir' : fs.at? (source.location ++ []) = some (.dir es) := by rwa [List.append_nil]
  refine ⟨(kept_copyLevels hapart _ hkept htrail hdir').same, ?_⟩
  intro call hcalls l hfind
  obtain ⟨hkept', e, es', htrail', hthere⟩ :=
    TreeCopy.within_of_calls hapart hcalls ⟨hkept, [], es, htrail, hdir'⟩
  have hplain := hkept'.plain (htrail'.source_plain hapart hthere)
  rw [find_of_plain htrail'.source_isAbsolute hplain hfind, htrail'.source_location]
  exact ⟨es', hthere⟩

/-- A tree that is copied has been copied when it is not refused. -/
theorem copy_of_outside {fs : FileSystem} {source target : Path}
    (hsource : source.isAbsolute = true) (htarget : target.isAbsolute = true)
    (hdir : fs.isDirectory source = true) (houtside : ¬ source.location <+: target.location) :
    copy fs source target = several (fs.copyTree source target) := by
  rw [← Path.normalize_startsWith_iff htarget hsource] at houtside
  simp [copy, hdir, houtside]

theorem several_snd (outcome : FileSystem.Outcome) : (several outcome).2 = outcome.2 := by
  obtain ⟨answer, fs⟩ := outcome
  cases answer <;> rfl

/-- When the copy of a directory is refused, with the file system unchanged: exactly if the text
of the target begins, dots folded, with that of the source.  For paths that meet no link this is
exactly if the place of the target is at or below the directory.  A copy that is apart leaves the
directory as it was, and every call that comes of it is for a directory that was there before. -/
theorem copy_directory_refused_iff {fs : FileSystem} (hsound : fs.Sound) {source target : Path}
    (hsource : source.isAbsolute = true) (htarget : target.isAbsolute = true) {l : Location}
    {es : List (Name × Node)} (hfind : fs.find true source = .ok l)
    (hdir : fs.at? l = some (.dir es)) :
    (copy fs source target = (.error (.copyIntoItself source), fs) ↔
      source.location <+: target.location) ∧
    (fs.Plain source → fs.Plain target →
      (copy fs source target = (.error (.copyIntoItself source), fs) ↔
        l <+: fs.placeOf target)) ∧
    (fs.Apart source target →
      (copy fs source target).2.at? l = fs.at? l ∧
        ∀ call, Relation.ReflTransGen TreeCopy.Enters
            ⟨Path.maxLength + 1, fs, source, target⟩ call →
          ∀ l', call.files.find true call.source = .ok l' →
            ∃ es', fs.at? l' = some (.dir es')) := by
  have hstat : fs.stat source = .ok (.dir es) := stat_eq_ok_iff.mpr ⟨l, hfind, hdir⟩
  have hisDir : fs.isDirectory source = true := by simp [isDirectory, hstat, Node.isDir]
  have hrefused := copy_refused_iff hsource htarget hisDir
  refine ⟨hrefused, ?_, ?_⟩
  · intro hplain hplain'
    rw [hrefused, find_of_plain hsource hplain hfind, placeOf_of_plain hplain']
  · intro hapart
    obtain rfl := find_of_plain hsource hapart.source_plain hfind
    rw [copy_of_outside hsource htarget hisDir hapart.outside, several_snd]
    exact copy_apart hsound hsource htarget hdir hapart

/-- A directory named with two dots, and a copy of it to a place below and to one beside it. -/
theorem copy_directory_below_and_beside :
    let d := Text.toBytes "d"
    let inner : List (Name × Node) :=
      [(Text.toBytes "f", .file 0), (Text.toBytes "e", .dir [(Text.toBytes "g", .file 0)])]
    let fs : FileSystem := ⟨.dir [(d, .dir inner)], #[⟨⟨#[1, 2]⟩, File.defaultMode⟩], none⟩
    let source := Path.ofString "/d/e/.."
    let below := Path.ofString "/d/./e/new"
    let beside := Path.ofString "/t/n"
    fs.Sound ∧ source.isAbsolute = true ∧ below.isAbsolute = true ∧ beside.isAbsolute = true ∧
      fs.find true source = .ok [d] ∧ fs.at? [d] = some (.dir inner) ∧
      fs.Plain source ∧ fs.Plain below ∧ [d] <+: fs.placeOf below ∧
      copy fs source below = (.error (.copyIntoItself source), fs) ∧
      fs.Apart source beside ∧ (copy fs source beside).2.at? [d] = fs.at? [d] ∧
      ∀ call, Relation.ReflTransGen TreeCopy.Enters
          ⟨Path.maxLength + 1, fs, source, beside⟩ call →
        ∀ l, call.files.find true call.source = .ok l → ∃ es, fs.at? l = some (.dir es) := by
  intro d inner fs source below beside
  have hsound : fs.Sound := by decide
  have hfree : fs.root.LinkFree := by decide
  have hsource : source.isAbsolute = true := by decide
  have hbelow : below.isAbsolute = true := by decide
  have hbeside : beside.isAbsolute = true := by decide
  have hfind : fs.find true source = .ok [d] := by
    have hsteps : source.lookupSteps = ["d", "e", ".."].map Text.toBytes := by decide
    refine (find_eq_ok_iff hsource).mpr ⟨by decide, Path.maxLinks, ?_⟩
    rw [hsteps]
    cbv
  have hdir : fs.at? [d] = some (.dir inner) := by cbv
  have hlocation : source.location = [d] := by decide
  have hapart : fs.Apart source beside := by
    refine apart_of_missing (hfree.plain [] _) (hfree.plain [] _)
      ⟨hbeside, Or.inr (by decide)⟩ ?_ (by cbv) (by decide)
    rw [hlocation, hdir]
    rfl
  obtain ⟨-, hplain, -⟩ := copy_directory_refused_iff hsound hsource hbelow hfind hdir
  obtain ⟨-, -, haway⟩ := copy_directory_refused_iff hsound hsource hbeside hfind hdir
  obtain ⟨hkept, hcalls⟩ := haway hapart
  have hplace : [d] <+: fs.placeOf below := by
    rw [placeOf_of_plain (hfree.plain [] _)]
    decide
  exact ⟨hsound, hsource, hbelow, hbeside, hfind, hdir, hfree.plain [] _, hfree.plain [] _, hplace,
    (hplain (hfree.plain [] _) (hfree.plain [] _)).mpr hplace, hapart, hkept, hcalls⟩

/-- Through a link a directory is copied onto itself: the copy is not refused, and a file in the
directory is lost. -/
theorem copy_directory_onto_itself_through_link :
    let d := Text.toBytes "d"
    let fs : FileSystem :=
      ⟨.dir [(d, .dir [(Text.toBytes "f", .file 0)]),
        (Text.toBytes "l", .link (Path.ofString "d"))],
        #[⟨⟨#[1, 2]⟩, File.defaultMode⟩], none⟩
    let source := Path.ofString "/d"
    let target := Path.ofString "/l"
    let file := Path.ofString "/d/f"
    fs.find true source = .ok [d] ∧ fs.isDirectory source = true ∧ [d] <+: fs.placeOf target ∧
      (copy fs source target).1 = .ok () ∧ fs.readFile file = .ok ⟨#[1, 2]⟩ ∧
      (copy fs source target).2.readFile file = .ok .empty := by
  intro d fs source target file
  have hfind : fs.find true source = .ok [d] := by cbv
  have hisDir : fs.isDirectory source = true := by cbv
  have hplace : fs.placeOf target = [d] := placeOf_of_find (by decide) (by cbv)
  have hbefore : fs.readFile file = .ok ⟨#[1, 2]⟩ := by cbv
  have houtside : ¬ source.location <+: target.location := by decide
  have hexists : fs.pathExists target = true := by cbv
  have hlist : fs.readDirectory source = .ok [(Text.toBytes "f", .file 0)] := by cbv
  have hpush : source.push (Text.toBytes "f") = file := by decide
  have hpush' : target.push (Text.toBytes "f") = Path.ofString "/l/f" := by decide
  have hstat : fs.stat file = .ok (.file 0) := by cbv
  have hslot : fs.findSlot (Path.ofString "/l/f") = .ok ([d], Text.toBytes "f") :=
    findSlot_eq_ok_iff.mpr ⟨by decide, [], by decide,
      writeSlot_eq_ok_iff.mpr ⟨[d], 39, Text.toBytes "f", by cbv, by cbv, by decide,
        Or.inl ⟨rfl, rfl, Or.inr ⟨0, by cbv⟩⟩⟩⟩
  have hcopy : fs.copyFile file (Path.ofString "/l/f") =
      .ok (fs.setFile 0 ⟨.empty, File.defaultMode⟩) := by
    simp only [copyFile, hstat, hslot]
    cbv
  have htree : fs.copyTree source target =
      (.ok (), fs.setFile 0 ⟨.empty, File.defaultMode⟩) := by
    simp only [copyTree, copyLevels, makeTarget, hexists, if_true, hlist, copyEntries, copyEntry,
      Node.isDir, Bool.false_eq_true, if_false, hpush, hpush', hcopy, attempt]
  rw [copy_of_outside (by decide) (by decide) hisDir houtside, htree]
  have hafter : (fs.setFile 0 ⟨.empty, File.defaultMode⟩).readFile file = .ok .empty := by cbv
  exact ⟨hfind, hisDir, hplace ▸ List.prefix_refl _, rfl, hbefore, hafter⟩

end FileCommand

end LuaShell
