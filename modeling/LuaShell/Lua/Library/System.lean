import LuaShell.Lua.Library.Dates
import LuaShell.Lua.Library.Garbage
import LuaShell.Lua.Library.Streams

/-!
# The library of the system

The environment, files by name, command lines, and leaving the shell at once.
-/

namespace LuaShell.Lua.Library.System

/-- `getenv`. -/
def getenv : Native := fun _ _ args => do
  let name := Text.ofBytesLossy (← Act.text args 1)
  return [((← Act.ofHost (·.setting? name)).map Value.ofString).getD .nil]

/-- What a change of the files answers; its failure may name the file. -/
def settle (name : Option ByteArray) : Except IoError FileSystem → Act (List Value)
  | .ok fs => do
      Act.changeHost fun h => { h with files := fs }
      return [.bool true]
  | .error e => return Streams.refusal name e

/-- `remove`. -/
def remove : Native := fun _ _ args => do
  let name ← Act.text args 1
  let fs ← Act.ofHost (·.files)
  let path : Path := ⟨name.data.toList⟩
  settle (some name) (match fs.removeFile path with
    | .error (.system n) =>
        if n = Errno.isDirectory then fs.removeDirectory path else .error (.system n)
    | answer => answer)

/-- `rename`. -/
def rename : Native := fun _ _ args => do
  let source ← Act.text args 1
  let target ← Act.text args 2
  settle none (← Act.ofHost fun h => h.files.rename ⟨source.data.toList⟩ ⟨target.data.toList⟩)

/-- `execute`. -/
def execute : Native := fun _ _ args => do
  if Act.isAbsent args 1 then return [.bool true]
  let line := Text.ofBytesLossy (← Act.text args 1)
  let ending ← (fun w =>
    let (ending, h) := w.host.runLine line
    (.ok ending, { w with host := h }) : Act Ending)
  return Streams.endingValues ending

/-- `exit`: the shell is left at once, with all that it has done so far. -/
def exit : Native := fun c _ args => do
  let code : Int ← match Act.argument args 1 with
    | .bool b => pure (if b then 0 else 1)
    | _ => do pure (← Act.intOr args 1 0).toInt32.toInt
  if (Act.argument args 2).truthy then
    let _ ← c.closeThread 0
    Garbage.finish c
  Streams.flushAll
  let h ← Act.ofHost id
  Act.change fun s => { s with halted := some (code, h) }
  throw (.raise (← Act.update (·.addFailure (.command (.exit code)))))

/-- What can be given a locale. -/
def localeCategories : List String :=
  ["all", "collate", "ctype", "monetary", "numeric", "time"]

/-- `setlocale`. There is one locale only. -/
def setlocale : Native := fun _ _ args => do
  let name ← Act.textOr args 1 "C".toUTF8
  let _ ← Act.option args 2 (some "all") localeCategories
  let isKnown := ["", "C", "POSIX"].any (·.toUTF8 == name)
  return [if isKnown then .ofString "C" else .nil]

/-- A name in the directory of temporary files. -/
def temporaryName (n : Nat) : String :=
  let digits := String.ofList (Nat.toDigits 36 (n % 36))
  s!"/tmp/lua_{digits}aZ7qK"

/-- `tmpname`: the name of a new empty file. -/
def tmpname : Native := fun _ _ _ => do
  let fs ← Act.ofHost (·.files)
  let names := (List.range 36).map temporaryName
  match names.find? fun name => !fs.pathExists (Path.ofString name) with
  | some name => match fs.writeFile (Path.ofString name) .empty with
    | .ok fs =>
        Act.changeHost fun h => { h with files := fs }
        return [.ofString name]
    | .error _ => Act.fail "unable to generate a unique filename"
  | none => Act.fail "unable to generate a unique filename"

/-- The functions and their names. -/
def functions : List (String × Native) :=
  Dates.functions ++
  [("execute", execute), ("exit", exit), ("getenv", getenv), ("remove", remove),
   ("rename", rename), ("setlocale", setlocale), ("tmpname", tmpname)]

end LuaShell.Lua.Library.System
