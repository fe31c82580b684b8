import LuaShell.Proofs.Path.Home
import LuaShell.Proofs.Text.Truncated

/-!
# Paths that are texts

A path is any bytes.  Its text spells it again exactly if the bytes are those of some text
(`ofString_display_iff`).  A byte of ASCII stands for itself and is a part of no other character, so
bytes with one in the middle are a text exactly if both sides are (`isText_append_cons_iff`).  All
separators are such bytes.  What a text is resolved to is therefore a text exactly if the directory
is that it is put behind (`isText_resolve_iff`).
-/

namespace LuaShell

namespace Text

/-- Bytes that a text is written as. -/
def IsText (bytes : List UInt8) : Prop :=
  ∃ text, toBytes text = bytes

theorem isText_toBytes (text : String) : IsText (toBytes text) :=
  ⟨text, rfl⟩

theorem isText_nil : IsText [] :=
  ⟨"", by decide⟩

theorem IsText.append {before after : List UInt8} (hbefore : IsText before)
    (hafter : IsText after) : IsText (before ++ after) := by
  obtain ⟨text₁, rfl⟩ := hbefore
  obtain ⟨text₂, rfl⟩ := hafter
  exact ⟨text₁ ++ text₂, toBytes_append text₁ text₂⟩

theorem isText_iff_exists_chars {bytes : List UInt8} :
    IsText bytes ↔ ∃ cs : List Char, cs.flatMap String.utf8EncodeChar = bytes := by
  constructor
  · rintro ⟨text, rfl⟩
    exact ⟨text.toList, (toBytes_eq_flatMap text).symm⟩
  · rintro ⟨cs, rfl⟩
    exact ⟨String.ofList cs, by rw [toBytes_eq_flatMap, String.toList_ofList]⟩

/-- What bytes are read as is written with the same bytes exactly if they are those of a text. -/
theorem toBytes_decodeLossy_iff {bytes : List UInt8} :
    toBytes (String.ofList (decodeLossy bytes)) = bytes ↔ IsText bytes := by
  constructor
  · intro hsame
    exact ⟨_, hsame⟩
  · rintro ⟨text, rfl⟩
    rw [decodeLossy_toBytes, String.ofList_toList]

instance (bytes : List UInt8) : Decidable (IsText bytes) :=
  decidable_of_iff _ toBytes_decodeLossy_iff

/-- A byte of ASCII among the bytes of a character is all of them. -/
theorem utf8EncodeChar_of_mem {c : Char} {x : UInt8} (hx : x.toNat < 0x80)
    (hmem : x ∈ String.utf8EncodeChar c) : String.utf8EncodeChar c = [x] := by
  have hc : x.toNat = c.toNat := (toNat_of_mem_utf8EncodeChar hmem).resolve_right (by omega)
  rw [← Char.ofNat_toNat c, ← hc, utf8EncodeChar_of_one hx]

/-- A byte of ASCII is a part of no other character, so a text is one on both sides of it. -/
theorem isText_append_cons_iff {x : UInt8} (hx : x.toNat < 0x80) {before after : List UInt8} :
    IsText (before ++ x :: after) ↔ IsText before ∧ IsText after := by
  simp only [isText_iff_exists_chars]
  constructor
  · rintro ⟨cs, hcs⟩
    induction cs generalizing before with
    | nil => simp at hcs
    | cons c cs ih =>
        rw [List.flatMap_cons] at hcs
        rcases List.append_eq_append_iff.mp hcs with ⟨left, hleft, hrest⟩ | ⟨left, hleft, hrest⟩
        · -- The first character lies before the byte.
          obtain ⟨⟨cs₁, hcs₁⟩, hafter⟩ := ih hrest
          exact ⟨⟨c :: cs₁, by rw [List.flatMap_cons, hcs₁, hleft]⟩, hafter⟩
        · cases left with
          | nil =>
              obtain ⟨-, hafter⟩ := @ih [] hrest.symm
              have hbefore : before = String.utf8EncodeChar c := by simpa using hleft.symm
              exact ⟨⟨[c], by simp [hbefore]⟩, hafter⟩
          | cons y left =>
              -- The first character has the byte in it, so it is that byte.
              obtain ⟨rfl, hafter⟩ := List.cons.inj hrest
              have hmem : x ∈ String.utf8EncodeChar c := by simp [hleft]
              have hbytes := utf8EncodeChar_of_mem hx hmem
              rw [hleft] at hbytes
              obtain ⟨rfl, rfl⟩ : before = [] ∧ left = [] := by
                simpa [List.append_eq_singleton_iff] using hbytes
              exact ⟨⟨[], rfl⟩, ⟨cs, hafter.symm⟩⟩
  · rintro ⟨⟨cs₁, rfl⟩, ⟨cs₂, rfl⟩⟩
    exact ⟨cs₁ ++ Char.ofNat x.toNat :: cs₂, by
      rw [List.flatMap_append, List.flatMap_cons, utf8EncodeChar_of_one hx, List.singleton_append]⟩

theorem toBytes_intercalate (separator : String) (texts : List String) :
    toBytes (separator.intercalate texts) =
      (toBytes separator).intercalate (texts.map toBytes) := by
  induction texts with
  | nil => rfl
  | cons text texts ih =>
      cases texts with
      | nil => simp
      | cons next texts =>
          rw [String.intercalate_cons_cons, toBytes_append, toBytes_append, ih]
          simp only [List.map_cons, List.intercalate_cons_cons]

/-- Pieces with a byte of ASCII between them make a text exactly if each of them is one. -/
theorem isText_intercalate_iff {x : UInt8} (hx : x.toNat < 0x80) {pieces : List (List UInt8)} :
    IsText ([x].intercalate pieces) ↔ ∀ piece ∈ pieces, IsText piece := by
  induction pieces with
  | nil => simp [isText_nil]
  | cons piece pieces ih =>
      cases pieces with
      | nil => simp
      | cons next pieces =>
          rw [List.intercalate_cons_cons, List.append_assoc, List.singleton_append,
            isText_append_cons_iff hx, ih]
          exact List.forall_mem_cons.symm

end Text

namespace Path

open LuaShell.Text (isText_append_cons_iff)

/-- A path that a text spells. -/
def IsText (p : Path) : Prop :=
  Text.IsText p.bytes

theorem isText_ofString (text : String) : (ofString text).IsText :=
  Text.isText_toBytes text

/-- The text of a path spells that path exactly if any text does. -/
theorem ofString_display_iff {p : Path} : ofString p.display = p ↔ p.IsText := by
  rw [IsText, ← Text.toBytes_decodeLossy_iff, ofString, display, Path.mk.injEq]

theorem isText_append_slash_iff {before after : List UInt8} :
    Text.IsText (before ++ slash :: after) ↔ Text.IsText before ∧ Text.IsText after :=
  isText_append_cons_iff (by decide)

/-! ## Paths that are put together -/

/-- A text that is joined to a path makes a text exactly if the path is one. -/
theorem isText_join_iff (p : Path) {q : Path} (hq : q.IsText) (hrel : q.isAbsolute = false) :
    (p.join q).IsText ↔ p.IsText := by
  obtain ⟨bytes⟩ := p
  unfold join
  rw [if_neg (by simp [hrel])]
  split
  · next hends =>
      rcases (by simpa using hends : bytes = [] ∨ bytes.getLast? = some slash) with rfl | hlast
      · exact iff_of_true hq Text.isText_nil
      · -- A slash at the end has all of `q` behind it.
        obtain ⟨front, rfl⟩ := List.getLast?_eq_some_iff.mp hlast
        simp only [IsText, List.append_assoc, List.singleton_append, isText_append_slash_iff]
        exact and_congr_right fun _ => iff_of_true hq Text.isText_nil
  · exact isText_append_slash_iff.trans (and_iff_left hq)

theorem isText_foldl_push_iff {names : List Name} (htext : ∀ n ∈ names, Text.IsText n)
    (hslash : ∀ n ∈ names, slash ∉ n) (p : Path) :
    (names.foldl push p).IsText ↔ p.IsText := by
  induction names generalizing p with
  | nil => rfl
  | cons n names ih =>
      have hrel : (Path.mk n).isAbsolute = false := by
        refine Bool.eq_false_iff.mpr fun habs => hslash n List.mem_cons_self ?_
        exact List.mem_of_mem_head? (by simpa [isAbsolute] using habs)
      rw [List.foldl_cons, ih (fun m hm => htext m (List.mem_cons_of_mem _ hm))
        (fun m hm => hslash m (List.mem_cons_of_mem _ hm))]
      exact isText_join_iff p (htext n List.mem_cons_self) hrel

/-! ## Parts of a text -/

theorem isText_unparts_iff {names : List Name} :
    Text.IsText (unparts names) ↔ ∀ n ∈ names, Text.IsText n := by
  rw [unparts_eq_intercalate, Text.isText_intercalate_iff (by decide)]

theorem isText_of_mem_parts {bytes : List UInt8} (htext : Text.IsText bytes) {n : Name}
    (hn : n ∈ parts bytes) : Text.IsText n := by
  rw [← unparts_parts bytes, isText_unparts_iff] at htext
  exact htext n hn

/-- A text with slashes for its backslashes is one. -/
theorem isText_slashed {bytes : List UInt8} (htext : Text.IsText bytes) :
    Text.IsText (slashed bytes) := by
  obtain ⟨cs, rfl⟩ := Text.isText_iff_exists_chars.mp htext
  induction cs with
  | nil => exact Text.isText_nil
  | cons c cs ih =>
      have hrest := ih (Text.isText_iff_exists_chars.mpr ⟨cs, rfl⟩)
      rw [List.flatMap_cons, slashed, List.map_append]
      by_cases hmem : backslash ∈ String.utf8EncodeChar c
      · rw [Text.utf8EncodeChar_of_mem (by decide) hmem]
        exact (@isText_append_slash_iff [] _).mpr ⟨Text.isText_nil, hrest⟩
      · have hkept := slashed_of_not_mem hmem
        rw [slashed] at hkept
        rw [hkept]
        exact Text.IsText.append (Text.isText_iff_exists_chars.mpr ⟨[c], by simp⟩) hrest

theorem isText_of_mem_separated {bytes : List UInt8} (htext : Text.IsText bytes) {n : Name}
    (hn : n ∈ separated bytes) : Text.IsText n := by
  rw [separated_eq] at hn
  exact isText_of_mem_parts (isText_slashed htext) (List.mem_of_mem_filter hn)

end Path

namespace WorkingDirectory

open LuaShell.Path (slash tilde)

/-- What a text that starts from the home directory is resolved to is a text exactly if the home
directory is one. -/
theorem isText_resolve_from_home {d : WorkingDirectory} {raw home : Path} (hraw : raw.IsText)
    (hsome : d.home = some home) (hstarts : d.StartsFromHome raw) :
    (d.resolve raw).IsText ↔ home.IsText := by
  obtain ⟨⟨home', hsome', habs⟩, hmark⟩ := hstarts
  obtain rfl : home' = home := Option.some.inj (hsome'.symm.trans hsome)
  rcases hmark with hmark | ⟨sep, hsep, tail, hmark⟩
  · have hexpand : raw.expandHome d.home = some home' := by simp [Path.expandHome, hmark, hsome]
    have hrel : raw.isAbsolute = false := by simp [Path.isAbsolute, hmark, tilde, slash]
    have hhome : raw.isHomePath = true := by simp [Path.isHomePath, hmark]
    simp [resolve, hrel, hhome, hexpand, habs]
  · have hbytes : raw.bytes = [tilde] ++ sep :: tail := by simpa using hmark.symm
    have hascii : sep.toNat < 0x80 := by rcases hsep with rfl | rfl <;> decide
    have hsep' : Path.isSeparator sep = true := by simpa [Path.isSeparator] using hsep
    have htail : Text.IsText tail := by
      rw [Path.IsText, hbytes, Text.isText_append_cons_iff hascii] at hraw
      exact hraw.2
    rw [resolve_below_home hsome habs hsep' hbytes]
    exact Path.isText_foldl_push_iff (fun _ => Path.isText_of_mem_separated htail)
      (fun _ => Path.no_slash_of_mem_separated) home'

/-- What a text is resolved to is a text exactly if the text is an absolute path, or if the
directory is a text that it is put behind: the home directory, or the working directory. -/
theorem isText_resolve_iff (d : WorkingDirectory) (text : String) :
    (d.resolve (Path.ofString text)).IsText ↔
      (Path.ofString text).isAbsolute = true ∨
      (d.StartsFromHome (Path.ofString text) ∧ ∀ home, d.home = some home → home.IsText) ∨
      (¬ d.StartsFromHome (Path.ofString text) ∧ d.current.IsText) := by
  have hraw := Path.isText_ofString text
  by_cases habs : (Path.ofString text).isAbsolute = true
  · rw [resolve, if_pos habs]
    exact iff_of_true hraw (.inl habs)
  by_cases hstarts : d.StartsFromHome (Path.ofString text)
  · obtain ⟨home, hsome, -⟩ := hstarts.1
    rw [isText_resolve_from_home hraw hsome hstarts]
    simp [habs, hstarts, hsome]
  · rw [resolve_of_not_startsFromHome hstarts,
      Path.isText_join_iff d.current hraw (Bool.eq_false_iff.mpr habs)]
    simp [habs, hstarts]

end WorkingDirectory

end LuaShell
