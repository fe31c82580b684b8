import LuaShell.Command.Files
import LuaShell.Proofs.FileSystem.Folding
import LuaShell.Proofs.FileSystem.Removal

/-!
# Renames within one directory

Whether a rename is refused is read off the texts of the two paths, dots folded, and what is
not refused goes to the system as it was typed.  Where links come after the last two dots of
a path, both see the same directory, and no rename leaves its directory.  Behind a link two
dots lead elsewhere than the text says, and a rename can move an entry to another directory.
-/

namespace LuaShell.FileCommand

open LuaShell.FileSystem
open LuaShell.Path (dot ofNames IsName)

/-- The components above the last one of a path of names. -/
theorem components_parent_ofNames {names : List Name} (hnames : ∀ n ∈ names, IsName n) :
    (ofNames names).parent.map (·.components) =
      if names = [] then none else some (.root :: names.dropLast.map .name) := by
  by_cases hnil : names = []
  · subst hnil
    rw [Path.ofNames_nil, Path.parent_rootDirectory]
    rfl
  · have hfront : ∀ n ∈ names.dropLast, IsName n := fun n hn =>
      hnames n (List.dropLast_subset _ hn)
    rw [if_neg hnil, Path.parent_ofNames hnames hnil, Option.map_some,
      Path.components_ofNames hfront]

/-- Two absolute paths count as of one directory if their folded texts differ in the last name
at most. -/
theorem sameDirectory_iff {p q : Path} (hp : p.isAbsolute = true) (hq : q.isAbsolute = true) :
    sameDirectory p q = true ↔
      (p.location = [] ↔ q.location = []) ∧ p.location.dropLast = q.location.dropLast := by
  have hinj : Function.Injective Component.name := fun _ _ h => Component.name.inj h
  simp only [sameDirectory, decide_eq_true_eq, Path.normalize_of_isAbsolute hp,
    Path.normalize_of_isAbsolute hq, components_parent_ofNames (Path.isName_location _)]
  by_cases hroot : p.location = [] <;> by_cases hroot' : q.location = []
  · simp [hroot, hroot']
  · simp [hroot, hroot']
  · simp [hroot, hroot']
  · simp [hroot, hroot', -List.map_dropLast, hinj.list_map.eq_iff]

/-- A rename is refused for what the paths spell, and for nothing else. -/
theorem rename_refused_iff (fs : FileSystem) (source target : Path) :
    rename fs source target = (.error (.crossDirectoryRename source), fs) ↔
      sameDirectory source target = false := by
  cases hsame : sameDirectory source target with
  | false => simp [rename, hsame, refuse]
  | true => cases hmoved : fs.rename source target <;> simp [rename, hsame, hmoved, single]

/-- What is not refused is up to the system. -/
theorem of_rename_ok {fs fs' : FileSystem} {source target : Path}
    (hok : rename fs source target = (.ok (), fs')) :
    sameDirectory source target = true ∧ fs.rename source target = .ok fs' := by
  cases hsame : sameDirectory source target with
  | false => simp [rename, hsame, refuse] at hok
  | true =>
      cases hmoved : fs.rename source target with
      | error e => simp [rename, hsame, hmoved, single] at hok
      | ok made => simpa [rename, hsame, hmoved, single] using hok

/-- The names of two paths of one directory are looked up in one directory, if links come after
the last two dots. -/
theorem eq_of_sameDirectory {fs : FileSystem} {source target : Path}
    (hsource : source.isAbsolute = true) (htarget : target.isAbsolute = true)
    (hdots : DotsFirst fs.root source.steps) (hdots' : DotsFirst fs.root target.steps)
    (hsame : sameDirectory source target = true) {d d' : Location} {n n' : Name}
    {slash slash' : Bool} (hparent : fs.findParent source = .ok (d, .name n slash))
    (hparent' : fs.findParent target = .ok (d', .name n' slash')) : d = d' := by
  obtain ⟨above, left, hlocation, hwalk⟩ := walk_above_of_findParent hsource hdots hparent
  obtain ⟨above', left', hlocation', hwalk'⟩ := walk_above_of_findParent htarget hdots' hparent'
  have hspelled := ((sameDirectory_iff hsource htarget).mp hsame).2
  rw [hlocation, hlocation', List.dropLast_concat, List.dropLast_concat] at hspelled
  rw [hspelled, hwalk'] at hwalk
  cases hwalk
  rfl

/-- A rename is refused, with nothing changed, exactly if the folded texts of its paths are not
those of two entries of one directory.  For paths whose links come after their last two dots, a
rename that succeeds has its source and its target in one directory, and two entries of different
directories are refused. -/
theorem rename_within_directory (fs : FileSystem) {source target : Path}
    (hsource : source.isAbsolute = true) (htarget : target.isAbsolute = true) :
    (rename fs source target = (.error (.crossDirectoryRename source), fs) ↔
      ¬ ((source.location = [] ↔ target.location = []) ∧
        source.location.dropLast = target.location.dropLast)) ∧
    (DotsFirst fs.root source.steps → DotsFirst fs.root target.steps →
      (∀ fs', rename fs source target = (.ok (), fs') →
        ∃ d n slash n' slash', fs.findParent source = .ok (d, .name n slash) ∧
          fs.findParent target = .ok (d, .name n' slash')) ∧
      (∀ d n slash d' n' slash', fs.findParent source = .ok (d, .name n slash) →
        fs.findParent target = .ok (d', .name n' slash') → d ≠ d' →
        rename fs source target = (.error (.crossDirectoryRename source), fs))) := by
  have hrefused := rename_refused_iff fs source target
  refine ⟨?_, fun hdots hdots' => ⟨?_, ?_⟩⟩
  · rw [hrefused, ← sameDirectory_iff hsource htarget, Bool.not_eq_true]
  · intro fs' hok
    obtain ⟨hsame, hmoved⟩ := of_rename_ok hok
    obtain ⟨d, n, slash, d', n', slash', hparent, hparent', -⟩ := FileSystem.of_rename hmoved
    obtain rfl := eq_of_sameDirectory hsource htarget hdots hdots' hsame hparent hparent'
    exact ⟨d, n, slash, n', slash', hparent, hparent'⟩
  · intro d n slash d' n' slash' hparent hparent' hne
    rw [hrefused, Bool.eq_false_iff]
    exact fun hsame =>
      hne (eq_of_sameDirectory hsource htarget hdots hdots' hsame hparent hparent')

/-- Below a linked directory, named with and without dots before the link: a rename there, and
one that would leave the directory. -/
theorem rename_within_directory_below_link :
    let b := Text.toBytes "b"
    let fs : FileSystem := ⟨.dir [(Text.toBytes "d", .dir []),
      (b, .dir [(Text.toBytes "x", .file 0)]), (Text.toBytes "l", .link (Path.ofString "b"))],
      #[⟨.empty, File.defaultMode⟩], none⟩
    let source := Path.ofString "/d/../l/x"
    let target := Path.ofString "/l//y"
    let elsewhere := Path.ofString "/d/./x"
    source.isAbsolute = true ∧ target.isAbsolute = true ∧ elsewhere.isAbsolute = true ∧
      DotsFirst fs.root source.steps ∧ DotsFirst fs.root target.steps ∧
      DotsFirst fs.root elsewhere.steps ∧
      (∃ fs', rename fs source target = (.ok (), fs')) ∧
      (∃ d n slash n' slash', fs.findParent source = .ok (d, .name n slash) ∧
        fs.findParent target = .ok (d, .name n' slash')) ∧
      fs.findParent source = .ok ([b], .name (Text.toBytes "x") false) ∧
      fs.findParent elsewhere = .ok ([Text.toBytes "d"], .name (Text.toBytes "x") false) ∧
      rename fs source elsewhere = (.error (.crossDirectoryRename source), fs) := by
  intro b fs source target elsewhere
  have hsource : source.isAbsolute = true := by decide
  have htarget : target.isAbsolute = true := by decide
  have helsewhere : elsewhere.isAbsolute = true := by decide
  have hdots : DotsFirst fs.root source.steps := by
    have hsteps : source.steps =
        [Text.toBytes "d", Text.toBytes ".."] ++ [Text.toBytes "l", Text.toBytes "x"] := by decide
    rw [hsteps]
    refine dotsFirst_append ?_ (by decide)
    intro cs hcs path
    simp only [List.prefix_cons_iff, List.prefix_nil] at hcs
    rcases hcs with rfl | ⟨_, rfl, rfl | ⟨_, rfl, rfl⟩⟩
    · cbv; simp
    · cbv; simp
    · cbv; simp
  have hroot : fs.root.Plain [] [] := fun cs hcs path => by
    rw [List.prefix_nil.mp hcs]
    simp [fs]
  have hdots' : DotsFirst fs.root target.steps := dotsFirst_append hroot (by decide)
  have hdots'' : DotsFirst fs.root elsewhere.steps := dotsFirst_append hroot (by decide)
  have hmoved : ∃ fs', rename fs source target = (.ok (), fs') := by
    exact ⟨_, by cbv⟩
  have hparent : fs.findParent source = .ok ([b], .name (Text.toBytes "x") false) := by cbv
  have hparent' : fs.findParent elsewhere =
      .ok ([Text.toBytes "d"], .name (Text.toBytes "x") false) := by cbv
  obtain ⟨-, hwithin⟩ := rename_within_directory fs hsource htarget
  obtain ⟨-, hacross⟩ := rename_within_directory fs hsource helsewhere
  obtain ⟨fs', hok⟩ := hmoved
  exact ⟨hsource, htarget, helsewhere, hdots, hdots', hdots'', ⟨fs', hok⟩,
    (hwithin hdots hdots').1 fs' hok, hparent, hparent',
    (hacross hdots hdots'').2 _ _ _ _ _ _ hparent hparent' (by decide)⟩

/-- Behind a link two dots lead elsewhere than they are folded to: the rename is not refused, and
moves a file to another directory. -/
theorem rename_out_of_directory :
    let b := Text.toBytes "b"
    let x := Text.toBytes "x"
    let y := Text.toBytes "y"
    let fs : FileSystem := ⟨.dir [(x, .file 0), (b, .dir [(Text.toBytes "c", .dir [])]),
      (Text.toBytes "l", .link (Path.ofString "b/c"))], #[⟨.empty, File.defaultMode⟩], none⟩
    let source := Path.ofString "/x"
    let target := Path.ofString "/l/../y"
    fs.findParent source = .ok ([], .name x false) ∧
      fs.findParent target = .ok ([b], .name y false) ∧
      (rename fs source target).1 = .ok () ∧ (rename fs source target).2.at? [x] = none ∧
      (rename fs source target).2.at? [b, y] = some (.file 0) := by
  intro b x y fs source target
  have hparent : fs.findParent source = .ok ([], .name x false) := by cbv
  have hparent' : fs.findParent target = .ok ([b], .name y false) := by cbv
  refine ⟨hparent, hparent', ?_, ?_, ?_⟩
  · cbv
  · cbv
  · cbv

end LuaShell.FileCommand
