import LuaShell.Lua.Act
import LuaShell.Lua.Binary
import LuaShell.Lua.Compile
import LuaShell.Lua.Library.Streams

/-!
# Basic functions

What every script finds among its globals: errors and protected calls, metatables,
raw access, going through tables, conversions, and loading chunks.
-/

namespace LuaShell.Lua.Library.Base

/-! ## Errors -/

/-- `assert`. -/
def assert : Native := fun _ _ args =>
  match args with
  | [] => Act.failAt 1 "value expected"
  | v :: rest =>
      if v.truthy then pure args
      else throw (.raise ((rest.head?).getD (.ofString "assertion failed!")))

/-- `error`. -/
def error : Native := fun _ _ args => do
  let level := (← Act.intOr args 2 1).toInt32.toInt
  match Act.argument args 1 with
  | .str text =>
      if 0 < level then
        let place ← Act.ofState (·.whereAt level.toNat)
        throw (.raise (.str (place ++ text)))
      else throw (.raise (.str text))
  | v => throw (.raise v)

/-- `pcall`. -/
def pcall : Control := fun _ _ args =>
  match args with
  | [] => Act.failAt 1 "value expected"
  | f :: rest => return .guarded .none f rest 2

/-- `xpcall`. -/
def xpcall : Control := fun _ _ args => do
  let handler ← Act.function args 2
  return .guarded (.function handler) (Act.argument args 1) (args.drop 2) 4

/-- `warn`. Warnings go nowhere. -/
def warn : Native := fun _ _ args => do
  let _ ← Act.bytes args 1
  for i in List.range args.length do
    let _ ← Act.bytes args (i + 1)
  return []

/-! ## Types and metatables -/

/-- `type`. -/
def type : Native := fun _ _ args => do
  return [.ofString (← Act.any args 1).typeName]

/-- The field of a metatable. -/
def metaField (v : Value) (name : String) : Act Value :=
  Act.ofState (·.metaField v name.toUTF8)

/-- `getmetatable`. -/
def getmetatable : Native := fun _ _ args => do
  let v ← Act.any args 1
  match v with
  | .failure _ => return [.bool false]
  | v => match ← Act.ofState (·.metatable? v) with
    | none => return [.nil]
    | some id => match ← metaField v "__metatable" with
      | .nil => return [.table id]
      | shown => return [shown]

/-- The metatable that an argument gives, or none. -/
def newMetatable (args : List Value) : Act (Option Nat) :=
  match args.drop 1 with
  | .nil :: _ => pure none
  | .table id :: _ => pure (some id)
  | _ => Act.failType args 2 "nil or table"

/-- `setmetatable`. -/
def setmetatable : Native := fun _ _ args => do
  let id ← Act.table args 1
  let newMeta ← newMetatable args
  match ← metaField (.table id) "__metatable" with
  | .nil =>
      Act.change (·.setMetatable id newMeta)
      return [.table id]
  | _ => Act.fail "cannot change a protected metatable"

/-- `rawequal`. -/
def rawequal : Native := fun _ _ args => do
  let a ← Act.any args 1
  let b ← Act.any args 2
  return [.bool (a.rawEquals b)]

/-- `rawlen`. -/
def rawlen : Native := fun _ _ args =>
  match Act.argument args 1 with
  | .table id => return [.int (Int64.ofNat (← Act.ofState fun s => (s.table id).length.1))]
  | .str b => return [.int (Int64.ofNat b.size)]
  | _ => Act.failType args 1 "table or string"

/-- `rawget`. -/
def rawget : Native := fun _ _ args => do
  let id ← Act.table args 1
  let key ← Act.any args 2
  return [← Act.ofState fun s => (s.table id).get key]

/-- `rawset`. -/
def rawset : Native := fun _ _ args => do
  let id ← Act.table args 1
  let key ← Act.any args 2
  let value ← Act.any args 3
  match State.keyFault? key with
  | some message => Act.failPlainly message.toUTF8
  | none =>
      Act.change (·.modifyTable id (·.set key value))
      return [.table id]

/-! ## Going through tables -/

/-- `next`. -/
def next : Native := fun _ _ args => do
  let id ← Act.table args 1
  match ← Act.ofState fun s => (s.table id).next (Act.argument args 2) with
  | none => Act.failPlainly "invalid key to 'next'".toUTF8
  | some none => return [.nil]
  | some (some (k, v)) => return [k, v]

/-- `pairs`. Its cell holds `next`. -/
def pairs : Control := fun _ cells args => do
  let v ← Act.any args 1
  match ← metaField v "__pairs" with
  | .nil => return .values [← Act.ofState (·.cell (cells[0]?.getD 0)), v, .nil]
  | m => return .call m [v] (args.length + 1) (some 3)

/-- The iterator of `ipairs`. -/
def nextItem : Native := fun c _ args => do
  let i := (← Act.int args 2) + 1
  match ← Act.index c (Act.argument args 1) (.int i) with
  | .nil => return [.nil]
  | v => return [.int i, v]

/-- `ipairs`. Its cell holds the iterator. -/
def ipairs : Native := fun _ cells args => do
  let v ← Act.any args 1
  return [← Act.ofState (·.cell (cells[0]?.getD 0)), v, .int 0]

/-- `select`. -/
def select : Native := fun _ _ args => do
  let rest := args.drop 1
  match Act.argument args 1 with
  | .str b =>
      if b[0]? = some 35 then return [.int (Int64.ofNat rest.length)]
  | _ => pure ()
  let i := (← Act.int args 1).toInt
  if 0 < i then return rest.drop (i.toNat - 1)
  else if i < 0 && -i ≤ rest.length then return rest.drop (rest.length - (-i).toNat)
  else Act.failAt 1 "index out of range"

/-! ## Conversions -/

/-- The integer that digits to a base write, with blanks around it. -/
def intOfDigits? (base : Nat) (text : List UInt8) : Option Int64 :=
  let (negative, digits) := Numeral.sign (Numeral.trim text)
  if digits.isEmpty || !digits.all (digitValue · < base) then none
  else some (Numeral.wrap negative (natOfDigits base digits))

/-- `tonumber`. -/
def tonumber : Native := fun _ _ args => do
  if Act.isAbsent args 2 then
    let v ← Act.any args 1
    return [(v.asNumber?).getD .nil]
  let base := (← Act.int args 2).toInt
  match Act.argument args 1 with
  | .str text =>
      if base < 2 || 36 < base then Act.failAt 2 "base out of range"
      else return [((intOfDigits? base.toNat text.data.toList).map .int).getD .nil]
  | _ => Act.failType args 1 "string"

/-- `tostring`. -/
def tostring : Native := fun c _ args => do
  return [.str (← Act.display c (← Act.any args 1))]

/-- `print`: texts with tabs between them. -/
def print : Native := fun c _ args => do
  let mut line := ByteArray.empty
  for (v, i) in args.zipIdx do
    let text ← Act.display c v
    line := (if i = 0 then line else line ++ "\t".toUTF8) ++ text
  let text := line ++ "\n".toUTF8
  Streams.withStream Streams.outputId fun x h =>
    let (x, h) := x.write text h
    let (x, h) := x.flush h
    ((), x, h)
  return []

/-! ## Chunks -/

/-- Load a chunk. Errors of the grammar are answered, but other errors are raised. -/
def loadBytes (source name mode : ByteArray) (environment : Value) : Act (List Value) := do
  let isBinary := source.data[0]? = some Binary.mark
  let kind := if isBinary then "binary" else "text"
  if !mode.data.contains (if isBinary then 98 else 116) then
    let message := s!"attempt to load a {kind} chunk (mode is '".toUTF8 ++ mode ++ "')".toUTF8
    return [.nil, .str message]
  if isBinary then
    match Binary.toProto source with
    | .ok p => return [← Act.update (Chunk.load p environment)]
    | .error e =>
        let message := s!": bad binary format ({e.message})".toUTF8
        return [.nil, .str (Binary.shownName name ++ message)]
  match Chunk.compile source name (← Act.ofState (·.run.depth)) with
  | .error .depth => Act.failPlainly "C stack overflow".toUTF8
  | .error e => return [.nil, .str e.message]
  | .ok p => return [← Act.update (Chunk.load p environment)]

/-- Answer nil and the error if something fails. -/
def attempted (c : Calls) (act : Act (List Value)) : Act (List Value) := do
  match ← c.attempt act with
  | .ok vs => return vs
  | .error e => return [.nil, e]

/-- The globals. -/
def globals : Act Value :=
  Act.ofState fun s => .table s.globals

/-- The environment that an argument names; the globals if it is not there. -/
def environment (args : List Value) (i : Nat) : Act Value :=
  match args[i - 1]? with
  | some v => pure v
  | none => globals

/-- The pieces of a source that a function hands out, up to nil or an empty one. -/
def pieces (c : Calls) (f : Value) : Nat → ByteArray → Act ByteArray
  | 0, source => return source
  | n + 1, source => do
      match ((← c.call f []).head?).getD .nil with
      | .nil => return source
      | v => match v.asBytes? with
        | some piece => if piece.size = 0 then return source else pieces c f n (source ++ piece)
        | none => Act.fail "reader function must return a string"

/-- How many pieces a source can have. -/
def maxPieces : Nat := 10000000

/-- `load`. -/
def load : Native := fun c _ args => do
  let mode ← Act.textOr args 3 "bt".toUTF8
  let env ← environment args 4
  match (Act.argument args 1).asBytes? with
  | some source => attempted c (loadBytes source (← Act.textOr args 2 source) mode env)
  | none =>
      let name ← Act.textOr args 2 "=(load)".toUTF8
      let f ← Act.function args 1
      attempted c do loadBytes (← pieces c f maxPieces .empty) name mode env

/-- What stands before a source in a file: a mark of the encoding, which may be broken off, and
a first line for the system, of which its end is kept. -/
def sourceOf (bytes : ByteArray) : ByteArray :=
  let body := match bytes.data.toList with
    | 0xEF :: 0xBB :: 0xBF :: rest => rest
    | 0xEF :: 0xBB :: _ :: rest => 0xEF :: rest
    | 0xEF :: _ :: rest => 0xEF :: rest
    | all => all
  match body with
  | 35 :: rest =>
      let code := (rest.dropWhile (· ≠ 10)).drop 1
      if code.head? = some Binary.mark then ⟨code.toArray⟩ else ⟨(10 :: code).toArray⟩
  | body => ⟨body.toArray⟩

/-- Load a file, or the standard input. -/
def loadFile (c : Calls) (file : Option ByteArray) (mode : ByteArray) (env : Value) :
    Act (List Value) := do
  match file with
  | none =>
      let source ← Streams.withStream Streams.inputId fun x h =>
        let (bytes, _) := x.contents h
        let (x, h) := x.advance bytes.size (bytes.size + 1) h
        (bytes, x, h)
      attempted c (loadBytes (sourceOf source) "=stdin".toUTF8 mode env)
  | some name => match ← Act.ofHost fun h => h.files.readFile ⟨name.data.toList⟩ with
    | .ok bytes => attempted c (loadBytes (sourceOf bytes) ("@".toUTF8 ++ name) mode env)
    | .error e =>
        let what := match e with
          | .system n => if n = Errno.isDirectory then "read" else "open"
          | _ => "open"
        return [.nil, .str (s!"cannot {what} ".toUTF8 ++ name ++ s!": {Streams.systemText e}".toUTF8)]

/-- The file that an argument names. -/
def fileArgument (args : List Value) : Act (Option ByteArray) := do
  if Act.isAbsent args 1 then return none
  return some (← Act.text args 1)

/-- `loadfile`. -/
def loadfile : Native := fun c _ args => do
  let file ← fileArgument args
  let mode ← Act.textOr args 2 "bt".toUTF8
  loadFile c file mode (← environment args 3)

/-- `dofile`. -/
def dofile : Control := fun c _ args => do
  match ← loadFile c (← fileArgument args) "bt".toUTF8 (← globals) with
  | [f] => return .call f [] 2 none
  | answer => throw (.raise (Act.argument answer 2))

/-- The functions and their names. -/
def functions : List (String × Native) :=
  [("assert", assert), ("error", error),
   ("getmetatable", getmetatable), ("ipairs", ipairs), ("loadfile", loadfile),
   ("load", load), ("next", next), ("print", print), ("warn", warn),
   ("rawequal", rawequal), ("rawlen", rawlen), ("rawget", rawget), ("rawset", rawset),
   ("select", select), ("setmetatable", setmetatable), ("tonumber", tonumber),
   ("tostring", tostring), ("type", type)]

/-- The functions that give control away, and their names. -/
def controls : List (String × Control) :=
  [("dofile", dofile), ("pairs", pairs), ("pcall", pcall), ("xpcall", xpcall)]

/-- The names in the order in which they become globals. -/
def names : List String :=
  ["assert", "collectgarbage", "dofile", "error", "getmetatable", "ipairs", "loadfile", "load",
   "next", "pairs", "pcall", "print", "warn", "rawequal", "rawlen", "rawget", "rawset",
   "select", "setmetatable", "tonumber", "tostring", "type", "xpcall"]

end LuaShell.Lua.Library.Base
