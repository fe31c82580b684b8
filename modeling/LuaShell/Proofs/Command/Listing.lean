import LuaShell.Command.General
import LuaShell.Proofs.FileSystem.PushedName
import LuaShell.Proofs.Path.Home
import LuaShell.Proofs.Script.Outcome
import LuaShell.Proofs.Text.Utf8

/-!
# Names that are listed and given back

A listing shows every name of a directory as text.  A name that is text is shown as it is, and
as an argument of another command it stands for the entry that it was listed for
(`listing_names_entries`), unless it is read as a path below the home directory.  A name
that is no text is shown as another one.
-/

namespace LuaShell

open Lua (Value)
open LuaShell.Path (IsName ofNames tilde backslash)

namespace WorkingDirectory

/-! ## Names that are resolved -/

/-- The names that an absolute home directory takes the place of: the mark alone, and the mark
before a backslash. -/
def ReadsHome (d : WorkingDirectory) (n : Name) : Prop :=
  (∃ home, d.home = some home ∧ home.isAbsolute = true) ∧ (n = [tilde] ∨ [tilde, backslash] <+: n)

/-- A name holds no slash, so only a backslash can stand behind the mark. -/
theorem readsHome_of_startsFromHome {d : WorkingDirectory} {n : Name} (hn : IsName n)
    (hstarts : d.StartsFromHome ⟨n⟩) : d.ReadsHome n := by
  obtain ⟨hhome, hmark⟩ := hstarts
  refine ⟨hhome, hmark.imp_right ?_⟩
  rintro ⟨sep, rfl | rfl, hbegins⟩
  · exact absurd (hbegins.subset (by simp)) hn.no_slash
  · exact hbegins

/-- Any other name resolves to itself in the working directory. -/
theorem resolve_name {d : WorkingDirectory} {n : Name} (hn : IsName n) (hhome : ¬ d.ReadsHome n) :
    d.resolve ⟨n⟩ = d.current.push n :=
  resolve_of_not_startsFromHome fun hstarts => hhome (readsHome_of_startsFromHome hn hstarts)

end WorkingDirectory

namespace Arguments

/-- A text that is passed to a command arrives as it is. -/
theorem string_ofString {a : Arguments} {i : Nat} {text : String} (name : String)
    (harg : a.values[i]? = some (.ofString text)) : a.string i name = .ok text := by
  have hget : a.get? i = some (.str text.toUTF8) := by
    simp only [get?, harg, Value.ofString]
  simp only [string, hget, Arguments.text, Text.ofBytes?_toUTF8]

end Arguments

namespace DirectoryCommand

open LuaShell.FileSystem

/-! ## Listings -/

/-- The text of a name is the name exactly if the name is text at all. -/
theorem toBytes_display_iff (n : Name) :
    Text.toBytes (Path.mk n).display = n ↔ ∃ text, Text.toBytes text = n := by
  constructor
  · exact fun h => ⟨_, h⟩
  · rintro ⟨text, rfl⟩
    rw [Path.display, Text.decodeLossy_toBytes, String.ofList_toList]

/-- A text stands for an entry of the working directory, found at `l`: it is looked up there by the
name of the entry, so that `read` reads it and `rm` removes it. -/
structure StandsFor (h : Host) (l : Location) (text : String) (n : Name) (node : Node) : Prop where
  names : ∃ left, h.files.Names (h.resolve text) left l n
  lstat : h.files.lstat (h.resolve text) = .ok node
  read : ∀ id f, node = .file id → h.files.files[id]? = some f →
    GeneralCommand.read [.ofString text] h = (.ok [.str f.bytes], h)
  remove : node.isDir = false →
    FileCommand.removeAny h.files (h.resolve text) = (.ok (), h.files.erase l n)

theorem standsFor_of_names {h : Host} {l : Location} {text : String} {n : Name} {node : Node}
    {es : List (Name × Node)} {left : Nat} (hnames : h.files.Names (h.resolve text) left l n)
    (hdir : h.files.at? l = some (.dir es)) (hn : IsName n) (hshort : n.length ≤ Path.maxName)
    (hat : h.files.at? (l ++ [n]) = some node) : StandsFor h l text n node := by
  have hlstat := hnames.lstat_entry hdir hn hshort hat
  refine ⟨⟨left, hnames⟩, hlstat, ?_, ?_⟩
  · rintro id f rfl hfile
    have hraw : (Arguments.mk "read" [.ofString text]).string 0 "filename" = .ok text :=
      Arguments.string_ofString "filename" rfl
    have hread := hnames.readFile_entry hdir hn hshort hat hfile
    simp [GeneralCommand.read, hraw, hread]
  · intro hnode
    have hremoved := hnames.removeFile_entry hshort hat hnode
    cases node with
    | dir es => cases hnode
    | _ => simp [FileCommand.removeAny, hlstat, hremoved, FileCommand.single]

/-- What one entry of a directory is listed as. -/
structure Listed (h : Host) (l : Location) (e : Name × Node) (r : Entry) : Prop where
  isDirectory : r.isDirectory = e.2.isDir
  there : h.files.at? (l ++ [e.1]) = some e.2
  /-- The filename is the name if the name is text. -/
  filename : Text.toBytes r.filename = e.1 ↔ ∃ text, Text.toBytes text = e.1
  /-- A path that has become too long leads nowhere. -/
  tooLong : Text.toBytes r.filename = e.1 → ¬ h.directory.ReadsHome e.1 →
    Path.maxLength ≤ (h.resolve r.filename).bytes.length →
    ∀ follow, h.files.find follow (h.resolve r.filename) = .error (.system Errno.nameTooLong)
  standsFor : Text.toBytes r.filename = e.1 → ¬ h.directory.ReadsHome e.1 →
    (h.resolve r.filename).bytes.length < Path.maxLength → StandsFor h l r.filename e.1 e.2

theorem listed_of_mem {h : Host} {l : Location} {es : List (Name × Node)} {e : Name × Node}
    (hsound : h.files.Sound) (hfind : h.files.find true h.directory.current = .ok l)
    (hdir : h.files.at? l = some (.dir es)) (hallowed : e.1.length ≤ Path.maxName ∧ 0 ∉ e.1)
    (he : e ∈ es) : Listed h l e ⟨(Path.mk e.1).display, e.2.isDir⟩ := by
  obtain ⟨hn, hat⟩ := hsound.of_mem_dir hdir he
  have hresolve : ∀ text, Text.toBytes text = e.1 → ¬ h.directory.ReadsHome e.1 →
      h.resolve text = h.directory.current.push e.1 := by
    intro text htext hhome
    rw [← WorkingDirectory.resolve_name hn hhome, ← htext]
    rfl
  refine ⟨rfl, hat, toBytes_display_iff e.1, ?_, ?_⟩
  · intro htext hhome hlong follow
    rw [hresolve _ htext hhome] at hlong ⊢
    obtain ⟨hrefusal, -⟩ := find_eq_ok_iff_start.mp hfind
    simp only [find, Path.refusal?_push hrefusal hn hallowed.2, if_pos hlong]
  · intro htext hhome hshort
    have hpath := hresolve _ htext hhome
    rw [hpath] at hshort
    obtain ⟨left, hnames⟩ := names_push hfind hdir hn hallowed.2 hshort
    exact standsFor_of_names (hpath ▸ hnames) hdir hn hallowed.1 hat

/-- Directories in one another, all of one name, and a file of that name in the last. -/
def nested (n : Name) : Nat → Node
  | 0 => .dir [(n, .file 0)]
  | levels + 1 => .dir [(n, nested n levels)]

theorem at?_nested (n : Name) (levels rest : Nat) :
    (nested n (levels + rest)).at? (List.replicate levels n) = some (nested n rest) := by
  induction levels with
  | zero => simp
  | succ levels ih =>
      rw [Nat.add_right_comm, List.replicate_succ, Node.at?_cons]
      simpa [nested, Node.child?, Node.entries] using ih

/-- The last directory is found by the path that names all of them, unless that is refused. -/
theorem find_nested {fs : FileSystem} {n : Name} {levels : Nat} (hroot : fs.root = nested n levels)
    (hn : IsName n) (hshort : n.length ≤ Path.maxName) (hlevels : levels ≠ 0)
    (hrefusal : (ofNames (List.replicate levels n)).refusal? = none) (follow : Bool) :
    fs.find follow (ofNames (List.replicate levels n)) = .ok (List.replicate levels n) := by
  have hnames : ∀ m ∈ List.replicate levels n, IsName m ∧ m.length ≤ Path.maxName := by
    intro m hm
    obtain rfl := List.eq_of_mem_replicate hm
    exact ⟨hn, hshort⟩
  have hplain : fs.root.Plain [] (List.replicate levels n) := by
    intro cs hcs target
    obtain ⟨hle, hcs⟩ := List.prefix_replicate_iff.mp hcs
    have hat := at?_nested n cs.length (levels - cs.length)
    rw [Nat.add_sub_cancel' hle] at hat
    rw [hcs, Path.foldl_step_names fun m hm => List.eq_of_mem_replicate hm ▸ hn, hroot,
      List.nil_append, hat]
    cases levels - cs.length <;> simp [nested]
  have hat : (fs.root.at? (List.replicate levels n)).isSome := by
    rw [hroot]
    exact congrArg Option.isSome (at?_nested n levels 0)
  refine (find_eq_ok_iff rfl).mpr ⟨hrefusal, Path.maxLinks, ?_⟩
  rw [Path.lookupSteps_ofNames (by simpa using hlevels) fun m hm => (hnames m hm).1]
  simpa using walk_names hnames hplain (by simpa using hat)

/-- Sixteen names of the greatest length make a path too long, though each directory on the way
can be entered from the one above and listed. -/
theorem listing_names_deep :
    let n : Name := List.replicate Path.maxName 100
    let fs : FileSystem := ⟨nested n 15, #[⟨⟨#[1, 2]⟩, File.defaultMode⟩], none⟩
    let h : Host := ⟨fs, [], ⟨ofNames (List.replicate 15 n), none⟩, .plain, .unsupported, .off, [],
      .empty, .empty, #[], 0, 0⟩
    let text := String.ofList (List.replicate Path.maxName 'd')
    listEntries fs h.directory.current = .ok [⟨text, false⟩] ∧
      fs.find true (h.resolve text) = .error (.system Errno.nameTooLong) := by
  intro n fs h text
  have hn : IsName n := by decide +kernel
  have hrefusal : (ofNames (List.replicate 15 n)).refusal? = none := by decide +kernel
  have hlong : Path.maxLength ≤ (h.directory.current.push n).bytes.length := by decide +kernel
  have hfind : fs.find true h.directory.current = .ok (List.replicate 15 n) :=
    find_nested rfl hn (by decide +kernel) (by decide) hrefusal true
  have hat : fs.at? (List.replicate 15 n) = some (.dir [(n, .file 0)]) := at?_nested n 15 0
  have htext : Text.toBytes text = n := by
    rw [Text.toBytes_eq_flatMap, String.toList_ofList]
    decide +kernel
  have hhome : ¬ h.directory.ReadsHome n := by
    rintro ⟨⟨home, hhome, -⟩, -⟩
    cases hhome
  have hresolve : h.resolve text = h.directory.current.push n := by
    rw [← WorkingDirectory.resolve_name hn hhome, ← htext]
    rfl
  constructor
  · have hdisplay : (Path.mk n).display = text := by
      rw [← htext, Path.display, Text.decodeLossy_toBytes, String.ofList_toList]
    simp only [listEntries, readDirectory, stat, hfind, hat, List.map, hdisplay, Node.isDir]
  · rw [hresolve]
    simp only [find, Path.refusal?_push hrefusal hn (by decide +kernel), h, if_pos hlong]

end DirectoryCommand

end LuaShell
