import LuaShell.Proofs.FileSystem.PushedName
import LuaShell.Proofs.Path.Home
import LuaShell.Proofs.Shell.Completion
import Mathlib

/-!
# Where completion looks

A path that is typed in a string is read twice: by completion, and by the command that gets the
string.  Behind the last slash stands the name that is still being typed, and what stands before it
is the directory that both search, unless the text starts from the home directory, which completion
does not know (`searchDirectory_eq_resolve`).  Nothing is said here about names that are typed with
a backslash.

A candidate is the typed directory with the name of an entry behind it, and the command finds that
name where completion has found it (`resolve_candidateOf`).  The slash behind the name of a
directory says no more than the name does (`find_slash`).  So a text that is accepted leads to the
entry that was offered (`LeadsTo`), if it does not start from the home directory and the whole path
is not too long.
-/

namespace LuaShell

namespace Path

/-- What a relative path that is joined is put behind. -/
def front (p : Path) : List UInt8 :=
  if p.bytes = [] ∨ p.bytes.getLast? = some slash then p.bytes else p.bytes ++ [slash]

theorem front_mk {bytes : List UInt8} (hbytes : bytes = [] ∨ bytes.getLast? = some slash) :
    (Path.mk bytes).front = bytes :=
  if_pos hbytes

theorem front_eq_nil_or (p : Path) : p.front = [] ∨ p.front.getLast? = some slash := by
  unfold front
  split
  · assumption
  · exact .inr (by simp)

theorem join_of_relative (p : Path) {q : Path} (hrel : q.isAbsolute = false) :
    p.join q = ⟨p.front ++ q.bytes⟩ := by
  unfold join front
  rw [if_neg (by simp [hrel])]
  by_cases hends : p.bytes = [] ∨ p.bytes.getLast? = some slash
  · rw [if_pos (by simpa using hends), if_pos hends]
  · rw [if_neg (by simpa using hends), if_neg hends]
    simp

/-- What is joined to a directory that ends in a slash is put behind the slash. -/
theorem join_join (p : Path) {directory rest : List UInt8}
    (hdirectory : directory = [] ∨ directory.getLast? = some slash)
    (hrest : (Path.mk rest).isAbsolute = false) :
    (p.join ⟨directory⟩).join ⟨rest⟩ = p.join ⟨directory ++ rest⟩ := by
  rw [join_of_relative _ hrest]
  cases habs : (Path.mk directory).isAbsolute with
  | true =>
      have hne : directory ≠ [] := by
        rintro rfl
        cases habs
      have hboth : (Path.mk (directory ++ rest)).isAbsolute = true := by
        rwa [isAbsolute, List.head?_append_of_ne_nil _ hne]
      rw [join_of_isAbsolute p habs, join_of_isAbsolute p hboth, front_mk hdirectory]
  | false =>
      have hboth : (Path.mk (directory ++ rest)).isAbsolute = false := by
        rcases hdirectory with rfl | hslash
        · exact hrest
        · have hne : directory ≠ [] := by
            rintro rfl
            cases hslash
          rwa [isAbsolute, List.head?_append_of_ne_nil _ hne]
      have hends : p.front ++ directory = [] ∨ (p.front ++ directory).getLast? = some slash := by
        rcases hdirectory with rfl | hslash
        · rw [List.append_nil]
          exact p.front_eq_nil_or
        · exact .inr (by simp [List.getLast?_append, hslash])
      rw [join_of_relative p habs, join_of_relative p hboth, front_mk hends, List.append_assoc]

/-- A name with a slash behind it is put where the name is. -/
theorem join_slash (p : Path) {n : Name} (hn : IsName n) :
    p.join ⟨n ++ [slash]⟩ = ⟨(p.push n).bytes ++ [slash]⟩ := by
  have hname : (Path.mk n).isAbsolute = false := isAbsolute_of_isName hn
  have hrel : (Path.mk (n ++ [slash])).isAbsolute = false := by
    rwa [isAbsolute, List.head?_append_of_ne_nil _ hn.ne_nil]
  rw [push, join_of_relative p hrel, join_of_relative p hname, List.append_assoc]

end Path

namespace FileSystem

open LuaShell.Path (slash dot)

variable {fs : FileSystem} {p : Path} {l : Location} {es : List (Name × Node)}

/-- A slash behind the path of a directory leads nowhere else. -/
theorem find_slash (hfind : fs.find true p = .ok l) (hdir : fs.at? l = some (.dir es))
    (hshort : (p.bytes ++ [slash]).length < Path.maxLength) (follow : Bool) :
    fs.find follow ⟨p.bytes ++ [slash]⟩ = .ok l := by
  obtain ⟨hrefusal, origin, left, hstart, hwalk⟩ := find_eq_ok_iff_start.mp hfind
  obtain ⟨hzero, hne, -⟩ := Path.refusal?_eq_none_iff.mp hrefusal
  have hrefusal' : (Path.mk (p.bytes ++ [slash])).refusal? = none :=
    Path.refusal?_eq_none_iff.mpr ⟨by simp [hzero, slash], by simp, hshort⟩
  have hstart' : fs.start ⟨p.bytes ++ [slash]⟩ = .ok origin := by
    rw [← hstart, start, start, Path.isAbsolute, Path.isAbsolute]
    simp [List.head?_append_of_ne_nil _ hne]
  have hsteps : (Path.mk (p.bytes ++ [slash])).lookupSteps = p.steps ++ [[dot]] := by
    simp [Path.lookupSteps, Path.endsInSlash, Path.steps, Path.parts_append_slash, Path.parts]
  refine find_eq_ok_iff_start.mpr ⟨hrefusal', origin, left, hstart', ?_⟩
  have hlast : walk fs.root follow left l [[dot]] = .ok (l, left) := by
    rw [walk_cons, turn_dot hdir]
    exact walk_nil ..
  rw [hsteps, walk_append_last p.steps (by simp), walk_steps_of_lookupSteps hwalk]
  exact hlast

end FileSystem

namespace Completion

open FileSystem
open LuaShell.Path (IsName slash)

/-! ## The directory that is searched -/

/-- The directory part of a path: it is empty or ends in a slash. -/
def EndsInSlash (directory : String) : Prop :=
  directory = "" ∨ directory.toList.getLast? = some '/'

/-- The name that is typed last, without any slash and without a backslash. -/
def IsTypedName (name : String) : Prop :=
  '/' ∉ name.toList ∧ '\\' ∉ name.toList

/-- A text is cut where the name begins that is typed last. -/
theorem splitTyped_append {directory name : String} (hdirectory : EndsInSlash directory)
    (hname : IsTypedName name) :
    splitTyped (directory ++ name).toList = (directory.toList, name.toList) := by
  have hnone : directory.toList.reverse.takeWhile (fun c => !isSeparator c) = [] := by
    rcases hdirectory with rfl | hslash
    · rfl
    · obtain ⟨front, hfront⟩ := List.getLast?_eq_some_iff.mp hslash
      simp [hfront, isSeparator]
  have hinside : ∀ c ∈ name.toList.reverse, (!isSeparator c) = true := by
    intro c hc
    have hmem : c ∈ name.toList := List.mem_reverse.mp hc
    have hslash : c ≠ '/' := fun heq => hname.1 (heq ▸ hmem)
    have hbackslash : c ≠ '\\' := fun heq => hname.2 (heq ▸ hmem)
    simp [isSeparator, hslash, hbackslash]
  have hrun : ((directory ++ name).toList.reverse.takeWhile fun c => !isSeparator c).reverse =
      name.toList := by
    rw [String.toList_append, List.reverse_append, List.takeWhile_append_of_pos hinside, hnone]
    simp
  have hlength : (directory ++ name).toList.length - name.toList.length =
      directory.toList.length := by
    rw [String.toList_append, List.length_append]
    omega
  simp only [splitTyped, hrun, hlength]
  rw [String.toList_append, List.take_left]

/-- Completion searches what a command reads the typed directory as, unless that starts from the
home directory. -/
theorem searchDirectory_eq_resolve {d : WorkingDirectory} {directory : String}
    (hhome : ¬ d.StartsFromHome (Path.ofString directory)) :
    searchDirectory d.current directory.toList = d.resolve (Path.ofString directory) := by
  rw [WorkingDirectory.resolve_of_not_startsFromHome hhome, searchDirectory, String.ofList_toList]

/-- What ends in a slash as a text does so in bytes. -/
theorem EndsInSlash.toBytes {directory : String} (hends : EndsInSlash directory) :
    Text.toBytes directory = [] ∨ (Text.toBytes directory).getLast? = some slash := by
  rcases hends with rfl | hslash
  · exact .inl (by decide)
  · obtain ⟨front, hfront⟩ := List.getLast?_eq_some_iff.mp hslash
    have hbyte : ['/'].flatMap String.utf8EncodeChar = [slash] := by decide
    refine .inr ?_
    rw [Text.toBytes_eq_flatMap, hfront, List.flatMap_append, hbyte, List.getLast?_concat]

theorem toBytes_display (directory name : String) (node : Node) :
    Text.toBytes (candidateOf directory name node).display =
      if node.isDir then Text.toBytes name ++ [slash] else Text.toBytes name := by
  have hbyte : Text.toBytes "/" = [slash] := by decide
  unfold candidateOf
  cases node.isDir with
  | true => exact (Text.toBytes_append name "/").trans (by rw [hbyte]; rfl)
  | false => rfl

/-! ## Texts that are accepted -/

section Accepted

variable {d : WorkingDirectory} {directory name : String} {node : Node}

/-- A command reads a candidate as what is shown in the directory that has been searched. -/
theorem resolve_candidateOf (hname : IsName (Text.toBytes name)) (hends : EndsInSlash directory)
    (hhome : ¬ d.StartsFromHome (Path.ofString directory))
    (haccepted : ¬ d.StartsFromHome (Path.ofString (candidateOf directory name node).replacement)) :
    d.resolve (Path.ofString (candidateOf directory name node).replacement) =
      (d.resolve (Path.ofString directory)).join
        (Path.ofString (candidateOf directory name node).display) := by
  have hrel : (Path.ofString (candidateOf directory name node).display).isAbsolute = false := by
    have hnone : (Path.mk (Text.toBytes name)).isAbsolute = false := Path.isAbsolute_of_isName hname
    rw [Path.ofString, toBytes_display]
    split
    · rwa [Path.isAbsolute, List.head?_append_of_ne_nil _ hname.ne_nil]
    · exact hnone
  rw [WorkingDirectory.resolve_of_not_startsFromHome haccepted,
    WorkingDirectory.resolve_of_not_startsFromHome hhome, candidateOf_replacement, Path.ofString,
    Text.toBytes_append]
  exact (Path.join_join d.current hends.toBytes hrel).symm

end Accepted

/-- What is shown for an entry is found behind the path of its directory. -/
theorem find_display {fs : FileSystem} {p : Path} {l : Location} {es : List (Name × Node)}
    {e : Name × Node} {directory name : String} (hsound : fs.Sound) (hfind : fs.find true p = .ok l)
    (hdir : fs.at? l = some (.dir es)) (he : e ∈ es) (hlength : e.1.length ≤ Path.maxName)
    (hzero : 0 ∉ e.1) (hname : Text.toBytes name = e.1)
    (hshort : (p.join (Path.ofString (candidateOf directory name e.2).display)).bytes.length <
      Path.maxLength) :
    fs.find false (p.join (Path.ofString (candidateOf directory name e.2).display)) =
      .ok (l ++ [e.1]) := by
  obtain ⟨hn, hat⟩ := hsound.of_mem_dir hdir he
  rw [Path.ofString, toBytes_display, hname] at hshort ⊢
  cases hnode : e.2.isDir with
  | false =>
      rw [hnode, if_neg (by decide)] at hshort
      rw [if_neg (by decide)]
      obtain ⟨left, hnames⟩ := names_push hfind hdir hn hzero hshort
      exact hnames.find_entry hdir hn hlength hat (Or.inl rfl)
  | true =>
      obtain ⟨es', hes'⟩ := Node.isDir_iff.mp hnode
      rw [hnode, if_pos rfl, Path.join_slash p hn] at hshort
      rw [if_pos rfl, Path.join_slash p hn]
      have hshort' : (p.push e.1).bytes.length < Path.maxLength := by
        rw [List.length_append] at hshort
        exact Nat.lt_of_le_of_lt (Nat.le_add_right _ _) hshort
      obtain ⟨left, hnames⟩ := names_push hfind hdir hn hzero hshort'
      have hthere : fs.find true (p.push e.1) = .ok (l ++ [e.1]) :=
        hnames.find_entry hdir hn hlength hat (Or.inr (by rw [hes']; rfl))
      exact find_slash hthere (hes' ▸ hat) hshort false

/-- A text that is accepted leads to an entry of the directory that has been searched: a command
reads it as the path of what is shown, there, and finds the entry if that path is not too long. -/
structure LeadsTo (fs : FileSystem) (d : WorkingDirectory) (searched : Path) (c : Candidate)
    (e : Name × Node) : Prop where
  path : d.resolve (Path.ofString c.replacement) = searched.join (Path.ofString c.display)
  entry : (d.resolve (Path.ofString c.replacement)).bytes.length < Path.maxLength →
    ∃ l, fs.find true searched = .ok l ∧
      fs.find false (d.resolve (Path.ofString c.replacement)) = .ok (l ++ [e.1]) ∧
      fs.lstat (d.resolve (Path.ofString c.replacement)) = .ok e.2

/-- The texts that are offered for a typed path. -/
def offered (fs : FileSystem) (current : Path) (typed : String) : List String :=
  (completePath fs current typed.toList).map (·.replacement)

end Completion

end LuaShell
