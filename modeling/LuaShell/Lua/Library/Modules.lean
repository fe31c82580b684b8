import LuaShell.Lua.Library.Base
import LuaShell.Lua.Traceback

/-!
# The library of modules

A module is loaded once.  Those who look for it are asked in turn: the table of
functions that were put there before, the files of a search path, and one who says
that there is nobody else.  The first cell of every function holds the table of the
library.
-/

namespace LuaShell.Lua.Library.Modules

/-- Where modules are looked for. -/
def defaultPath : String :=
  "/usr/local/share/lua/5.4/?.lua;/usr/local/share/lua/5.4/?/init.lua;" ++
  "/usr/local/lib/lua/5.4/?.lua;/usr/local/lib/lua/5.4/?/init.lua;./?.lua;./?/init.lua"

/-- Where native modules would be looked for. -/
def defaultNativePath : String :=
  "/usr/local/lib/lua/5.4/?.so;/usr/local/lib/lua/5.4/loadall.so;./?.so"

/-- The characters that have a meaning in search paths, line by line. -/
def configuration : String := "/\n;\n?\n!\n-\n"

/-- A field of the table of the library. -/
def field (cells : Array Nat) (name : String) : Act Value :=
  Act.ofState fun s => match s.cell (cells[0]?.getD 0) with
    | .table id => (s.table id).get (.ofString name)
    | _ => .nil

/-- Text with every place of a part replaced. -/
def replaceAll (part text : List UInt8) : List UInt8 → List UInt8
  | [] => []
  | b :: rest =>
      if part ≠ [] && part.isPrefixOf (b :: rest) then
        text ++ replaceAll part text (rest.drop (part.length - 1))
      else b :: replaceAll part text rest
termination_by bytes => bytes.length

/-- Text cut at a byte. -/
def cutAt (mark : UInt8) : List UInt8 → List (List UInt8)
  | [] => [[]]
  | b :: rest =>
      if b = mark then [] :: cutAt mark rest
      else match cutAt mark rest with
        | [] => [[b]]
        | p :: ps => (b :: p) :: ps

/-- The files that a name can stand for by a search path, if a separator in the name is
replaced. -/
def candidates (name path separator replacement : ByteArray) : List ByteArray :=
  let inPath := replaceAll separator.data.toList replacement.data.toList name.data.toList
  (cutAt 59 (replaceAll [63] inPath path.data.toList)).map fun t => ⟨t.toArray⟩

/-- The files that the name of a module can stand for. -/
def moduleFiles (name path : ByteArray) : List ByteArray :=
  candidates name path ".".toUTF8 "/".toUTF8

/-- Whether a file can be read. -/
def isReadable (name : ByteArray) : Act Bool :=
  Act.ofHost fun h => h.files.pathExists ⟨name.data.toList⟩

/-- The first file that can be read, or what to say about all of them. -/
def searchFiles : List ByteArray → ByteArray → Act (Except ByteArray ByteArray)
  | [], notes => return .error notes
  | name :: rest, notes => do
      if ← isReadable name then return .ok name
      let note := "no file '".toUTF8 ++ name ++ "'".toUTF8
      searchFiles rest (if notes.size = 0 then note else notes ++ "\n\t".toUTF8 ++ note)

/-- `searchpath`. -/
def searchpath : Native := fun _ _ args => do
  let replacement ← Act.textOr args 4 "/".toUTF8
  let separator ← Act.textOr args 3 ".".toUTF8
  let path ← Act.text args 2
  let name ← Act.text args 1
  match ← searchFiles (candidates name path separator replacement) .empty with
  | .ok file => return [.str file]
  | .error notes => return [.nil, .str notes]

/-- The first one who is asked: functions that were put into a table before. -/
def searchPreloaded : Native := fun _ cells args => do
  let name ← Act.text args 1
  let found ← match ← field cells "preload" with
    | .table id => Act.ofState fun s => (s.table id).get (.str name)
    | _ => pure .nil
  match found with
  | .nil => return [.str ("no field package.preload['".toUTF8 ++ name ++ "']".toUTF8)]
  | loader => return [loader, .ofString ":preload:"]

/-- The second one who is asked: files of the search path. -/
def searchScripts : Native := fun c cells args => do
  let name ← Act.text args 1
  match (← field cells "path").asBytes? with
  | none => Act.fail "'package.path' must be a string"
  | some path => match ← searchFiles (moduleFiles name (Value.untilZero path)) .empty with
    | .error notes => return [.str notes]
    | .ok file => match ← Base.loadFile c (some file) "bt".toUTF8 (← Base.globals) with
      | [f] => return [f, .str file]
      | answer =>
          let cause := ((Act.argument answer 2).asBytes?).getD .empty
          throw (.message ("error loading module '".toUTF8 ++ name ++ "' from file '".toUTF8 ++
            file ++ "':\n\t".toUTF8 ++ cause))

/-- The last one who is asked. -/
def searchNowhere : Native := fun _ _ _ =>
  return [.ofString "\n\tcan't load C modules in safe mode"]

/-- `loadlib`. Like the failure of a hook, that of asking for a library holds the call stack. -/
def loadlib : Native := fun _ _ _ => do
  let cause := EngineError.external "safety error: package.loadlib is disabled in safe mode"
  let trace := Text.ofBytesLossy (← Act.ofState Traceback.text)
  throw (.raise (← Act.update (·.addFailure (.callback trace cause))))

/-- Ask one after the other for the function that loads a module. -/
def findLoader (c : Calls) (searchers : Nat) (name : ByteArray) :
    Nat → Nat → ByteArray → Act (Value × Value)
  | 0, _, _ => Act.fail "too many searchers"
  | n + 1, i, notes => do
      match ← Act.ofState fun s => (s.table searchers).getInt i with
      | .nil =>
          throw (.message ("module '".toUTF8 ++ name ++ "' not found:".toUTF8 ++ notes))
      | searcher =>
          let answer ← c.call searcher [.str name]
          match Act.argument answer 1 with
          | .func id => return (.func id, Act.argument answer 2)
          | v => match v.asBytes? with
            | some note => findLoader c searchers name n (i + 1) (notes ++ "\n\t".toUTF8 ++ note)
            | none => findLoader c searchers name n (i + 1) notes

/-- `require`. -/
def require : Native := fun c cells args => do
  let name ← Act.text args 1
  let loaded := Value.table (← Act.ofState (·.loaded))
  let present ← Act.index c loaded (.str name)
  if present.truthy then return [present]
  match ← field cells "searchers" with
  | .table searchers =>
      let (loader, extra) ← findLoader c searchers name 1000 1 .empty
      let answer := ((← c.call loader [.str name, extra]).head?).getD .nil
      if !answer.isNil then Act.assign c loaded (.str name) answer
      if (← Act.index c loaded (.str name)).isNil then
        Act.assign c loaded (.str name) (.bool true)
      return [← Act.index c loaded (.str name), extra]
  | _ => Act.fail "'package.searchers' must be a table"

/-- The functions, and the names under which the machine finds them. -/
def functions : List (String × Native) :=
  [("require", require), ("package.searchpath", searchpath), ("package.loadlib", loadlib),
   ("searcher of preloaded modules", searchPreloaded), ("searcher of scripts", searchScripts),
   ("searcher of nothing", searchNowhere)]

end LuaShell.Lua.Library.Modules
