import LuaShell.Proofs.FileSystem.Growth
import LuaShell.Proofs.FileSystem.Sound

/-!
# Where entries are made

Opening a path for writing ends at a slot: a directory and a proper name in it, where a
file stands or nothing does (`slot_of_findSlot`).  Once a file stands there the path leads
to it, whatever else has been added meanwhile (`find_of_findSlot`), and a path that meets
no link ends at the slot that it spells (`location_of_findSlot`).  Each fact is proved
along the links in the last place, of which there are ever fewer left.  A new directory
goes through no link in the last place (`of_makeDirectory`).
-/

namespace LuaShell.FileSystem

open LuaShell.Path (dot IsName)

/-- A walk of two pieces is one walk after the other, with the links that are left. -/
theorem walk_append {root : Node} {links : Nat} {here : Location} (ps qs : List Name) :
    walk root true links here (ps ++ qs) =
      (walk root true links here ps).bind fun r => walk root true r.2 r.1 qs := by
  fun_induction walk root true links here ps with
  | case1 => rfl
  | case2 _ _ _ _ _ hturn => rw [List.cons_append, walk, hturn]; rfl
  | case3 _ _ _ _ _ hturn ih => rw [List.cons_append, walk, hturn]; exact ih
  | case4 => simp_all
  | case5 _ _ _ _ hturn => rw [List.cons_append, walk, hturn]; simp [Except.bind]
  | case6 _ _ _ _ hturn _ _ ih => rw [List.cons_append, walk, hturn]; simpa using ih

/-- A directory is listed exactly if the path leads to it. -/
theorem readDirectory_eq_ok_iff {fs : FileSystem} {p : Path} {es : List (Name × Node)} :
    fs.readDirectory p = .ok es ↔ ∃ l, fs.find true p = .ok l ∧ fs.at? l = some (.dir es) := by
  rw [← stat_eq_ok_iff, readDirectory]
  cases fs.stat p with
  | error e => simp
  | ok n => cases n <;> simp [refuse]

/-- Proper names are listed, each once. -/
theorem Sound.of_readDirectory {fs : FileSystem} {p : Path} {es : List (Name × Node)}
    (hsound : fs.Sound) (hread : fs.readDirectory p = .ok es) :
    (∀ e ∈ es, IsName e.1) ∧ (es.map (·.1)).Nodup := by
  obtain ⟨l, -, hdir⟩ := readDirectory_eq_ok_iff.1 hread
  cases Node.Sound.at? hsound hdir with
  | dir _ hnames hnodup _ => exact ⟨hnames, hnodup⟩

/-- A last step that is a name ends the steps of its path. -/
theorem of_lastStep_name {p : Path} {n : Name} {slash : Bool}
    (hlast : lastStep p = .name n slash) :
    p.steps = p.steps.dropLast ++ [n] ∧ IsName n ∧ p.endsInSlash = slash := by
  unfold lastStep at hlast
  cases hsteps : p.steps.getLast? with
  | none => simp [hsteps] at hlast
  | some c =>
      simp only [hsteps] at hlast
      have hmem : c ∈ p.steps := List.mem_of_getLast? hsteps
      obtain ⟨hne, hslash, -⟩ := Path.of_mem_steps hmem
      split at hlast
      · cases hlast
      · next hdot =>
          split at hlast
          · cases hlast
          · next hdots =>
              cases hlast
              refine ⟨?_, ⟨hne, hslash, hdot, hdots⟩, rfl⟩
              exact (List.dropLast_append_getLast? n hsteps).symm

/-- The directory above is where all steps but the last lead. -/
theorem parentFrom_eq_ok_iff {root : Node} {links left : Nat} {origin l : Location} {p : Path} :
    parentFrom root links origin p = .ok (l, left) ↔
      walk root true links origin p.steps.dropLast = .ok (l, left) ∧
        ∃ es, root.at? l = some (.dir es) := by
  unfold parentFrom
  cases hwalk : walk root true links origin p.steps.dropLast with
  | error e => simp
  | ok r =>
      obtain ⟨l', left'⟩ := r
      constructor
      · intro h
        simp only at h
        split at h
        · next es hes =>
            cases h
            exact ⟨rfl, es, hes⟩
        · cases h
      · rintro ⟨h, es, hes⟩
        cases h
        simp [hes]

/-- The last step from the directory above ends where the path says if no link is in the way. -/
theorem location_of_parentFrom {root : Node} {links left : Nat} {origin l : Location} {p : Path}
    {n : Name} {slash : Bool} (hplain : root.Plain origin p.steps)
    (hparent : parentFrom root links origin p = .ok (l, left))
    (hlast : lastStep p = .name n slash) : l ++ [n] = p.steps.foldl Location.step origin := by
  obtain ⟨habove, -⟩ := parentFrom_eq_ok_iff.1 hparent
  obtain ⟨hsteps, hname, -⟩ := of_lastStep_name hlast
  have hfront : p.steps.dropLast <+: p.steps := List.dropLast_prefix _
  have hbefore : root.Plain origin p.steps.dropLast := fun cs hcs =>
    hplain cs (hcs.trans hfront)
  obtain ⟨hl, -, -⟩ := walk_of_plain hbefore habove
  rw [hsteps, List.foldl_concat, ← hl, Path.step_of_isName hname]

/-! ## Single slots -/

/-- Where a slot is: its directory and its name, or the slot of a link that stands there. -/
theorem writeSlot_eq_ok_iff {root : Node} {links : Nat} {origin d : Location} {p : Path}
    {n : Name} : writeSlot root links origin p = .ok (d, n) ↔
      ∃ l left m, parentFrom root links origin p = .ok (l, left) ∧ lastStep p = .name m false ∧
        m.length ≤ Path.maxName ∧
        ((d = l ∧ n = m ∧
            (root.at? (l ++ [m]) = none ∨ ∃ id, root.at? (l ++ [m]) = some (.file id))) ∨
          ∃ target k, root.at? (l ++ [m]) = some (.link target) ∧ left = k + 1 ∧
            writeSlot root k (linkStart target l) target = .ok (d, n)) := by
  constructor
  · intro hslot
    rw [writeSlot] at hslot
    split at hslot
    · cases hslot
    · next l left hparent =>
        split at hslot
        · next m hlast =>
            split at hslot
            · cases hslot
            · next hshort =>
                refine ⟨l, left, m, hparent, hlast, by omega, ?_⟩
                rw [Node.at?_concat]
                split at hslot
                · next target hlink =>
                    split at hslot
                    · cases hslot
                    · next k _ _ => exact Or.inr ⟨target, k, hlink, rfl, hslot⟩
                · cases hslot
                -- Neither a link nor a directory: a file, or nothing.
                · next hnotLink hnotDir =>
                    cases hslot
                    refine Or.inl ⟨rfl, rfl, ?_⟩
                    cases hat : (root.at? d).bind (·.child? n) with
                    | none => exact Or.inl rfl
                    | some v =>
                        cases v with
                        | file id => exact Or.inr ⟨id, rfl⟩
                        | dir es => exact absurd hat (hnotDir es)
                        | link target => exact absurd hat (hnotLink target)
        · cases hslot
  · rintro ⟨l, left, m, hparent, hlast, hshort, hcase⟩
    have hlong : ¬ Path.maxName < m.length := by omega
    rw [Node.at?_concat] at hcase
    rw [writeSlot]
    split
    · next h =>
        rw [hparent] at h
        cases h
    · next l' left' h =>
        rw [hparent] at h
        cases h
        rcases hcase with ⟨rfl, rfl, hnone | ⟨id, hfile⟩⟩ | ⟨target, k, hlink, rfl, hnext⟩
        · simp [hlast, hlong, hnone]
        · simp [hlast, hlong, hfile]
        · simp [hlast, hlong, hlink, hnext]

/-- A slot is a proper name in a directory, where a file stands or nothing. -/
theorem slot_of_writeSlot {root : Node} {links : Nat} {origin d : Location} {p : Path} {n : Name}
    (hslot : writeSlot root links origin p = .ok (d, n)) :
    (∃ es, root.at? d = some (.dir es)) ∧ IsName n ∧ n.length ≤ Path.maxName ∧
      (root.at? (d ++ [n]) = none ∨ ∃ id, root.at? (d ++ [n]) = some (.file id)) := by
  -- A link in the last place uses one link up, so there are fewer left for what it holds.
  induction links using Nat.strong_induction_on generalizing origin p with
  | _ links ih =>
      obtain ⟨l, left, m, hparent, hlast, hshort, hplace | hlink⟩ := writeSlot_eq_ok_iff.1 hslot
      · obtain ⟨rfl, rfl, hentry⟩ := hplace
        exact ⟨(parentFrom_eq_ok_iff.1 hparent).2, (of_lastStep_name hlast).2.1, hshort, hentry⟩
      · obtain ⟨target, k, -, rfl, hnext⟩ := hlink
        exact ih k (parentFrom_links_le hparent) hnext

/-- Once a file stands in the slot of a path, the path leads there, whatever else has been added
since the slot was found. -/
theorem walk_of_writeSlot {a b : Node} (hgrow : a.GrowsTo b) {links : Nat}
    {origin d : Location} {p : Path} {n : Name} (hslot : writeSlot a links origin p = .ok (d, n))
    {id : Nat} (hfile : b.at? (d ++ [n]) = some (.file id)) :
    ∃ left, walk b true links origin p.lookupSteps = .ok (d ++ [n], left) := by
  induction links using Nat.strong_induction_on generalizing origin p with
  | _ links ih =>
      obtain ⟨l, left, m, hparent, hlast, hshort, hcase⟩ := writeSlot_eq_ok_iff.1 hslot
      obtain ⟨habove, hdir⟩ := parentFrom_eq_ok_iff.1 hparent
      obtain ⟨hsteps, hname, hend⟩ := of_lastStep_name hlast
      have hlookup : p.lookupSteps = p.steps.dropLast ++ [m] := by
        simp only [Path.lookupSteps, hend, Bool.false_eq_true, if_false]
        exact hsteps
      have hstep : l.step m = l ++ [m] := Path.step_of_isName hname l
      obtain ⟨es, hes⟩ := hdir
      obtain ⟨es', hes'⟩ := hgrow.dir hes
      -- The way to the directory above has not changed; only the last step is new.
      rw [hlookup, walk_append, walk_of_growsTo hgrow habove]
      rcases hcase with ⟨rfl, rfl, -⟩ | ⟨target, k, hlink, rfl, hnext⟩
      · have hturn : turn b d n = .ok (.place (d ++ [n])) :=
          turn_eq_ok_iff.2 ⟨⟨es', hes'⟩, hshort, .file id, hstep ▸ hfile, by rw [hstep]; rfl⟩
        exact ⟨left, by simp [Except.bind, walk, hturn]⟩
      · have hturn : turn b l m = .ok (.link target) :=
          turn_eq_ok_iff.2 ⟨⟨es', hes'⟩, hshort, .link target, hstep ▸ hgrow.link hlink, rfl⟩
        obtain ⟨left, hleft⟩ := ih k (parentFrom_links_le hparent) hnext
        exact ⟨left, by simpa [Except.bind, walk, hturn] using hleft⟩

/-- A path that meets no link has its slot at the location that it spells. -/
theorem location_of_writeSlot {root : Node} {links : Nat} {origin d : Location} {p : Path}
    {n : Name} (hplain : root.Plain origin p.steps)
    (hslot : writeSlot root links origin p = .ok (d, n)) :
    d ++ [n] = p.steps.foldl Location.step origin := by
  obtain ⟨l, left, m, hparent, hlast, -, hcase⟩ := writeSlot_eq_ok_iff.1 hslot
  have hspelled := location_of_parentFrom hplain hparent hlast
  rcases hcase with ⟨rfl, rfl, -⟩ | ⟨target, k, hlink, -, -⟩
  · exact hspelled
  · exact absurd (hspelled ▸ hlink) (hplain p.steps (List.prefix_refl _) target)

/-! ## Slots of paths -/

theorem findSlot_eq_ok_iff {fs : FileSystem} {p : Path} {d : Location} {n : Name} :
    fs.findSlot p = .ok (d, n) ↔ p.refusal? = none ∧ ∃ origin, fs.start p = .ok origin ∧
      writeSlot fs.root Path.maxLinks origin p = .ok (d, n) := by
  unfold findSlot
  cases p.refusal? with
  | some e => simp
  | none =>
      cases hstart : fs.start p with
      | error e => simp [Except.bind, Except.mapError]
      | ok origin =>
          cases hslot : writeSlot fs.root Path.maxLinks origin p with
          | error e => simp [Except.bind, Except.mapError, hslot]
          | ok r => simp [Except.bind, Except.mapError, hslot]

/-- What is found for writing is a proper name in a directory, where a file stands or nothing. -/
theorem slot_of_findSlot {fs : FileSystem} {p : Path} {d : Location} {n : Name}
    (hslot : fs.findSlot p = .ok (d, n)) :
    (∃ es, fs.at? d = some (.dir es)) ∧ IsName n ∧
      (fs.at? (d ++ [n]) = none ∨ ∃ id, fs.at? (d ++ [n]) = some (.file id)) := by
  obtain ⟨-, origin, -, hwrite⟩ := findSlot_eq_ok_iff.1 hslot
  obtain ⟨hdir, hname, -, hentry⟩ := slot_of_writeSlot hwrite
  exact ⟨hdir, hname, hentry⟩

/-- A path leads to the file that has been put into its slot. -/
theorem find_of_findSlot {fs fs' : FileSystem} (hgrow : fs.GrowsTo fs') {p : Path}
    {d : Location} {n : Name} (hslot : fs.findSlot p = .ok (d, n)) {id : Nat}
    (hfile : fs'.at? (d ++ [n]) = some (.file id)) : fs'.find true p = .ok (d ++ [n]) := by
  obtain ⟨hrefusal, origin, hstart, hwrite⟩ := findSlot_eq_ok_iff.1 hslot
  obtain ⟨left, hwalk⟩ := walk_of_writeSlot hgrow.root hwrite hfile
  exact find_eq_ok_iff_start.mpr
    ⟨hrefusal, origin, left, by rw [start_of_growsTo hgrow, hstart], hwalk⟩

/-- The slot of a plain path is where the path says. -/
theorem location_of_findSlot {fs : FileSystem} {p : Path} (habs : p.isAbsolute = true)
    (hplain : fs.Plain p) {d : Location} {n : Name} (hslot : fs.findSlot p = .ok (d, n)) :
    d ++ [n] = p.location := by
  obtain ⟨-, origin, hstart, hwrite⟩ := findSlot_eq_ok_iff.1 hslot
  obtain rfl : [] = origin := by simpa [start, habs] using hstart
  exact location_of_writeSlot hplain hwrite

/-! ## New directories -/

theorem findParent_eq_ok_iff {fs : FileSystem} {p : Path} {l : Location} {last : LastStep} :
    fs.findParent p = .ok (l, last) ↔ p.refusal? = none ∧ last = lastStep p ∧
      ∃ origin left, fs.start p = .ok origin ∧
        parentFrom fs.root Path.maxLinks origin p = .ok (l, left) := by
  unfold findParent
  cases p.refusal? with
  | some e => simp
  | none =>
      cases hstart : fs.start p with
      | error e => simp [Except.bind, Except.map, Except.mapError]
      | ok origin =>
          cases hparent : parentFrom fs.root Path.maxLinks origin p with
          | error e => simp [Except.bind, Except.map, Except.mapError, hparent]
          | ok r =>
              simp [Except.bind, Except.map, Except.mapError, hparent, Prod.ext_iff, and_comm,
                eq_comm]

/-- The entry of a name in a directory is what stands at its location. -/
theorem entryAt_eq_ok_iff {fs : FileSystem} {l : Location} {n : Name} {v : Option Node} :
    fs.entryAt l n = .ok v ↔ n.length ≤ Path.maxName ∧ fs.at? (l ++ [n]) = v := by
  have hat : fs.at? (l ++ [n]) = (fs.at? l).bind (·.child? n) := Node.at?_concat _ _ _
  unfold entryAt
  split
  · next hlong => simp [Nat.not_le_of_lt hlong]
  · next hlong => simp [Nat.le_of_not_lt hlong, hat]

/-- A new directory is an empty one in a place that was free, which is where a plain path says. -/
theorem of_makeDirectory {fs fs' : FileSystem} {p : Path} (hmade : fs.makeDirectory p = .ok fs') :
    ∃ d n es, fs.at? d = some (.dir es) ∧ fs.at? (d ++ [n]) = none ∧ IsName n ∧
      fs' = fs.insert d n (.dir []) ∧
      (p.isAbsolute = true → fs.Plain p → d ++ [n] = p.location) := by
  unfold makeDirectory at hmade
  split at hmade
  · cases hmade
  · next d n slash hparent =>
      obtain ⟨-, hlast, origin, left, hstart, hfrom⟩ := findParent_eq_ok_iff.1 hparent
      obtain ⟨es, hes⟩ := (parentFrom_eq_ok_iff.1 hfrom).2
      split at hmade
      · cases hmade
      · cases hmade
      · next hentry =>
          cases hmade
          obtain ⟨-, hfree⟩ := entryAt_eq_ok_iff.1 hentry
          refine ⟨d, n, es, hes, hfree, (of_lastStep_name hlast.symm).2.1, rfl, ?_⟩
          intro habs hplain
          obtain rfl : [] = origin := by simpa [start, habs] using hstart
          exact location_of_parentFrom hplain hfrom hlast.symm
  · cases hmade

end LuaShell.FileSystem
