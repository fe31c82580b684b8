import LuaShell.Lua.Interpreter
import LuaShell.Proofs.Script.Place
import LuaShell.Proofs.Script.Sequence
import LuaShell.Proofs.Script.Underline
import LuaShell.Proofs.Text.Truncated
import LuaShell.Shell.Basic
import Mathlib

/-!
# Scripts with long names

A script file is compiled under a chunk name that is the path as it was given, so that a failure
can be recognized as one of this file.  Lua shows no more than the first bytes of the name in its
messages (`shownOrigin`), and what is recognized is the shown name: a failure to compile is located
in the file, and the line shown, exactly if all of the path is shown (`ShownWhole`,
`Shell.runFile_compile_error`).  With a longer path the place names a file that need not exist, and
no line is shown.

That Lua puts the place before its message in this form is a fact about the interpreter here
(`Lua.Interpreter.compile_of_atLine`); of any other engine it is asked.
-/

namespace LuaShell

open Text (shortened replacement toBytes)

namespace Diagnostic

/-! ## Shown names -/

/-- The name under which a chunk is shown that was given the name `origin`. -/
def shownOrigin (origin : String) : String :=
  shortened Lua.Proto.maxShown origin

/-- A name is shown as it is: it is short enough, or the cut goes through a replacement character at
its end, and that is what the rest of such a character is read as. -/
def ShownWhole (origin : String) : Prop :=
  origin.utf8ByteSize ≤ Lua.Proto.maxShown ∨
    ∃ init : String, origin = init ++ String.singleton replacement ∧
      init.utf8ByteSize < Lua.Proto.maxShown

theorem shownOrigin_eq_self_iff {origin : String} :
    shownOrigin origin = origin ↔ ShownWhole origin :=
  Text.shortened_eq_self_iff

section Shown

variable {origin : String} {mark cs init : List Char}

theorem not_mem_shownOrigin {c : Char} (hc : c ∉ origin.toList) (hreplacement : c ≠ replacement) :
    c ∉ (shownOrigin origin).toList := by
  obtain ⟨init, hbegins, hshown | hshown⟩ :=
    Text.toList_shortened_eq Lua.Proto.maxShown origin
  · rw [shownOrigin, hshown]
    exact fun hmem => hc (hbegins.subset hmem)
  · rw [shownOrigin, hshown]
    simp only [List.mem_append, List.mem_singleton, hreplacement, or_false]
    exact fun hmem => hc (hbegins.subset hmem)

/-- What is shown of a name holds no mark of a place if the name holds none. -/
theorem not_marked_shownOrigin (h : ¬ Marked [':', ' '] origin.toList) :
    ¬ Marked [':', ' '] (shownOrigin origin).toList := by
  obtain ⟨init, hbegins, hshown | hshown⟩ :=
    Text.toList_shortened_eq Lua.Proto.maxShown origin
  · rw [shownOrigin, hshown]
    exact fun hmarked => h (hmarked.of_part hbegins.isInfix)
  · rw [shownOrigin, hshown]
    intro hmarked
    exact h ((hmarked.of_concat rfl (by decide)).of_part hbegins.isInfix)

end Shown

end Diagnostic

/-! ## The place before a message of Lua -/

namespace Lua

/-- A name behind an equality sign is shown up to its first so many bytes. -/
theorem Proto.shownName_origin {origin : String} (hzero : 0 ∉ toBytes origin) :
    (shownName ("=" ++ origin).toUTF8).data.toList = (toBytes origin).take maxShown := by
  have hname : ("=" ++ origin).toUTF8.data.toList = 61 :: toBytes origin :=
    Text.toBytes_append "=" origin
  have hwhole : ((toBytes origin).take maxShown).takeWhile (· ≠ 0) =
      (toBytes origin).take maxShown := by
    rw [List.takeWhile_eq_self_iff]
    intro b hb
    have hne : b ≠ 0 := fun h => hzero (h ▸ List.mem_of_mem_take hb)
    simpa using hne
  simp only [shownName, hname]
  exact hwhole

namespace Interpreter

open Diagnostic (shownOrigin placed)

/-- A source that breaks a rule of the grammar fails with the place, the shown name of the chunk and
the line, before the message. -/
theorem compile_of_atLine (dispatch : Dispatch) (origin : String) {source : String}
    {text : List UInt8} {n : Nat} (hzero : 0 ∉ toBytes origin)
    (hchunk : readChunk (toBytes source) 0 = .error (.atLine text n)) :
    ∃ incomplete, (engine dispatch).compile source ("=" ++ origin) =
      .error (.compile (placed (shownOrigin origin) n (Text.ofBytesLossy ⟨text.toArray⟩))
        incomplete) := by
  have hname : zeroAt? ("=" ++ origin) = none := by
    rw [zeroAt?, Text.toBytes_append, List.findIdx?_eq_none_iff]
    intro b hb
    have hne : b ≠ 0 := by
      rintro rfl
      rcases List.mem_append.mp hb with hsign | horigin
      · exact absurd hsign (by decide)
      · exact hzero horigin
    simpa using hne
  have hmessage : Text.ofBytesLossy (Proto.shownName ("=" ++ origin).toUTF8 ++
      s!":{n}: ".toUTF8 ++ ⟨text.toArray⟩) =
        placed (shownOrigin origin) n (Text.ofBytesLossy ⟨text.toArray⟩) := by
    rw [← String.toList_inj, Diagnostic.toList_placed, Text.ofBytesLossy, String.toList_ofList,
      ByteArray.data_append, ByteArray.data_append, Array.toList_append, Array.toList_append,
      Proto.shownName_origin hzero]
    rw [List.append_assoc]
    exact (Text.decodeLossy_append_text _ (by simp [toString]) _ _).trans
      (by simp [toString, shownOrigin, Text.shortened, Text.ofBytesLossy])
  refine ⟨isIncomplete (Proto.shownName ("=" ++ origin).toUTF8 ++ s!":{n}: ".toUTF8 ++
    ⟨text.toArray⟩), ?_⟩
  show compile source ("=" ++ origin) = _
  have hbytes : source.toUTF8.data.toList = toBytes source := rfl
  simp only [compile, hname, Chunk.compile, hbytes, hchunk, hmessage]

end Interpreter

end Lua

/-! ## Running a file -/

namespace Shell

open Diagnostic (Marked IsLine ShownWhole shownOrigin placed)

variable {ε χ : Type} {E : Engine ε χ} {m : Machine ε} {path source text line : String} {n : Nat}
  {incomplete : Bool}

/-- A file that does not compile ends in the diagnostic of that. -/
theorem runFile_of_compile_error {e : EngineError}
    (hread : m.host.files.readText (m.host.resolve path) = .ok source)
    (hcompile : E.compile source ("=" ++ path) = .error e) :
    (runFile E path m).1 = .error (.script (.failed (.ofError .compile e path source))) := by
  have hunit : E.compileUnit source path UnitOptions.batch.printResult = .error e := hcompile
  simp only [runFile, hread]
  rw [Engine.execute_of_compile_error hunit, Engine.fail_eq]
  rfl

/-- A failure to compile at a line of the file names the line under the shown name of the file. This
is the path, and the line is shown, exactly if all of the path is shown. -/
theorem runFile_compile_error (hread : m.host.files.readText (m.host.resolve path) = .ok source)
    (hsize : source.utf8ByteSize < UInt64.size) (hfeed : '\n' ∉ path.toList)
    (hmark : ¬ Marked [':', ' '] path.toList) (hline : IsLine source.toList n line.toList)
    (hcompile : E.compile source ("=" ++ path) =
      .error (.compile (placed (shownOrigin path) n text) incomplete)) :
    ∃ d, (runFile E path m).1 = .error (.script (.failed d)) ∧
      d.PointsTo (shownOrigin path) n text none ∧
      (ShownWhole path → d.origin = some path ∧ d.sourceLine = some line) ∧
      (¬ ShownWhole path → d.origin ≠ some path ∧ d.sourceLine = none) := by
  -- The number is read back, as it is that of a line of a text in memory.
  have hn : n < UInt64.size :=
    (hline.le_length.trans (Text.length_le_utf8ByteSize source)).trans_lt hsize
  obtain ⟨d, hd⟩ : ∃ d, d = Diagnostic.ofError .compile
      (.compile (placed (shownOrigin path) n text) incomplete) path source := ⟨_, rfl⟩
  have hpoints : d.PointsTo (shownOrigin path) n text none := by
    rw [hd]
    exact Diagnostic.pointsTo_of_flatten (Diagnostic.not_mem_shownOrigin hfeed (by decide))
      (Diagnostic.not_marked_shownOrigin hmark) hn rfl _ _ _
  have hformed : d.WellFormed path source := hd ▸ Diagnostic.wellFormed_ofError ..
  refine ⟨d, by rw [hd, runFile_of_compile_error hread hcompile], hpoints, fun hwhole => ?_,
    fun hcut => ?_⟩
  · have horigin : d.origin = some path := by
      rw [hpoints.origin, Diagnostic.shownOrigin_eq_self_iff.mpr hwhole]
    have hfirst : max 1 n = n := by
      obtain ⟨before, -, -, -, rfl, -⟩ := hline
      omega
    exact ⟨horigin, (hformed.sourceLine line).mpr
      ⟨horigin, n, hpoints.line, by rw [hfirst]; exact hline⟩⟩
  · have horigin : d.origin ≠ some path := by
      rw [hpoints.origin]
      exact fun h => hcut (Diagnostic.shownOrigin_eq_self_iff.mp (Option.some.inj h))
    refine ⟨horigin, Option.eq_none_iff_forall_ne_some.mpr fun text htext => ?_⟩
    exact horigin ((hformed.sourceLine text).mp htext).1

/-- Two files with one source that has a failure in its second line: with a short name the line is
shown, with a name of sixty bytes it is not. -/
theorem runFile_compile_error_two_names :
    let source := "\n  = 2\n"
    let long := "a0123456789b0123456789c0123456789d0123456789e0123456789f.lua"
    let fs : FileSystem :=
      ⟨.dir [(toBytes "b.lua", .file 0), (toBytes long, .file 0)],
        #[⟨source.toUTF8, File.defaultMode⟩], none⟩
    let h : Host := ⟨fs, [], ⟨Path.ofString "/", none⟩, .plain, .unsupported, .off, [], .empty,
      .empty, #[], 0, 0⟩
    let m : Lua.World := ⟨h, Lua.Library.initialState⟩
    let E := Lua.Interpreter.engine Lua.Interpreter.commands
    IsLine source.toList 2 "  = 2".toList ∧ source.utf8ByteSize < UInt64.size ∧
    (∀ path ∈ ["b.lua", long], m.host.files.readText (m.host.resolve path) = .ok source ∧
      '\n' ∉ path.toList ∧ ¬ Marked [':', ' '] path.toList ∧
      ∃ text incomplete, E.compile source ("=" ++ path) =
        .error (.compile (placed (shownOrigin path) 2 text) incomplete)) ∧
    (∃ d, (runFile E "b.lua" m).1 = .error (.script (.failed d)) ∧ d.origin = some "b.lua" ∧
      d.line = some 2 ∧ d.sourceLine = some "  = 2") ∧
    ∃ d, (runFile E long m).1 = .error (.script (.failed d)) ∧ d.origin ≠ some long ∧
      d.line = some 2 ∧ d.sourceLine = none := by
  intro source long fs h m E
  have hline : IsLine source.toList 2 "  = 2".toList :=
    ⟨['\n'], "  = 2".toList, ['\n'], ⟨by decide, .inr rfl, by decide, .inr rfl⟩, rfl,
      by simp, by decide⟩
  have hsize : source.utf8ByteSize < UInt64.size := by decide
  have hchunk : Lua.readChunk (toBytes source) 0 =
    .error (.atLine (toBytes "unexpected symbol near '='") 2) := by rfl
  have hshort : m.host.files.readText (m.host.resolve "b.lua") = .ok source := by cbv
  have hlong : m.host.files.readText (m.host.resolve long) = .ok source := by cbv
  obtain ⟨incomplete, hcompile⟩ := Lua.Interpreter.compile_of_atLine
    Lua.Interpreter.commands "b.lua" (by decide) hchunk
  obtain ⟨incomplete', hcompile'⟩ := Lua.Interpreter.compile_of_atLine
    Lua.Interpreter.commands long (by decide) hchunk
  have hfeed : '\n' ∉ "b.lua".toList := by decide
  have hfeed' : '\n' ∉ long.toList := by decide
  have hmark : ¬ Marked [':', ' '] "b.lua".toList := by decide
  have hmark' : ¬ Marked [':', ' '] long.toList := by decide
  refine ⟨hline, hsize, ?_, ?_, ?_⟩
  · simp only [List.forall_mem_cons]
    exact ⟨⟨hshort, hfeed, hmark, _, _, hcompile⟩, ⟨hlong, hfeed', hmark', _, _, hcompile'⟩,
      by simp⟩
  · obtain ⟨d, hd, hpoints, hshown, -⟩ :=
      runFile_compile_error hshort hsize hfeed hmark hline hcompile
    obtain ⟨horigin, htext⟩ := hshown (.inl (by decide))
    exact ⟨d, hd, horigin, hpoints.line, htext⟩
  · obtain ⟨d, hd, hpoints, -, hhidden⟩ :=
      runFile_compile_error hlong hsize hfeed' hmark' hline hcompile'
    obtain ⟨horigin, htext⟩ := hhidden <| by
      rintro (hsize | ⟨init, hinit, -⟩)
      · exact absurd hsize (by decide)
      · have hlast := congrArg (fun text => text.toList.getLast?) hinit
        simp [long, replacement] at hlast
    exact ⟨d, hd, horigin, hpoints.line, htext⟩

/-- Of the name `a0123456789b0123456789c0123456789d0123456789e0123456789f.lua` Lua shows all but the
last character, and the place is not recognized as one of that file. -/
theorem runFile_unrecognized :
    let source := "\n  = 2\n"
    let path := "a0123456789b0123456789c0123456789d0123456789e0123456789f.lua"
    let fs : FileSystem :=
      ⟨.dir [(toBytes path, .file 0)], #[⟨source.toUTF8, File.defaultMode⟩], none⟩
    let h : Host := ⟨fs, [], ⟨Path.ofString "/", none⟩, .plain, .unsupported, .off, [], .empty,
      .empty, #[], 0, 0⟩
    let m : Lua.World := ⟨h, Lua.Library.initialState⟩
    let E := Lua.Interpreter.engine Lua.Interpreter.commands
    '\n' ∉ path.toList ∧ ¬ Marked [':', ' '] path.toList ∧
    IsLine source.toList 2 "  = 2".toList ∧
    (∃ incomplete, E.compile source ("=" ++ path) = .error (.compile
      (placed (shownOrigin path) 2 "unexpected symbol near '='") incomplete)) ∧
    (runFile E path m).1 = .error (.script (.failed ⟨.compile, "unexpected symbol near '='",
      some "a0123456789b0123456789c0123456789d0123456789e0123456789f.lu", some 2, none, none,
      none⟩)) := by
  intro source path fs h m E
  have hchunk : Lua.readChunk (toBytes source) 0 =
    .error (.atLine (toBytes "unexpected symbol near '='") 2) := by rfl
  have hread : m.host.files.readText (m.host.resolve path) = .ok source := by cbv
  obtain ⟨incomplete, hcompile⟩ := Lua.Interpreter.compile_of_atLine
    Lua.Interpreter.commands path (by decide) hchunk
  have htext : Text.ofBytesLossy ⟨(toBytes "unexpected symbol near '='").toArray⟩ =
      "unexpected symbol near '='" := by
    rw [Text.ofBytesLossy, Text.decodeLossy_toBytes, String.ofList_toList]
  rw [htext] at hcompile
  have hshown : shownOrigin path =
      "a0123456789b0123456789c0123456789d0123456789e0123456789f.lu" := by cbv
  refine ⟨by decide, by decide, ?_, ⟨incomplete, hcompile⟩, ?_⟩
  · exact ⟨['\n'], "  = 2".toList, ['\n'], ⟨by decide, .inr rfl, by decide, .inr rfl⟩, rfl,
      by simp, by decide⟩
  · rw [runFile_of_compile_error hread hcompile, hshown]
    rfl

end Shell

end LuaShell
