import LuaShell.Lua.Library.Garbage
import LuaShell.Lua.Library.Modules
import LuaShell.Lua.Library.Numbers
import LuaShell.Lua.Library.Strings
import LuaShell.Lua.Library.System
import LuaShell.Lua.Library.Tables
import LuaShell.Lua.Library.Threads
import LuaShell.Lua.Library.Unicode
import LuaShell.Lua.Nesting
import Std.Data.HashMap

/-!
# The library

All functions that a script finds at the beginning, by the names under which the
machine knows them, and the state in which they are the globals.
-/

namespace LuaShell.Lua.Library

/-- Functions under the name of their module. -/
def inModule (name : String) (functions : List (String × Native)) : List (String × Native) :=
  functions.map fun f => (name ++ "." ++ f.1, f.2)

/-- The modules that are tables of functions. -/
def modules : List (String × List (String × Native)) :=
  [("coroutine", Threads.functions), ("table", Tables.functions),
   ("io", Streams.functions), ("os", System.functions), ("string", Strings.functions),
   ("math", Numbers.functions), ("utf8", Unicode.functions)]

/-- The name that streams give to their type. -/
def streamName : String := "FILE*"

/-- Functions that are no fields of a module. -/
def hidden : List (String × Native) :=
  [("ipairs iterator", Base.nextItem), (Strings.gmatchNextName, Strings.gmatchNext),
   (Threads.wrappedName, Threads.wrapped), (Streams.nextLineName, Streams.nextLine),
   (Unicode.nextCodeName false, Unicode.nextCode false),
   (Unicode.nextCodeName true, Unicode.nextCode true)] ++
  Strings.operations.map fun o => (Strings.operationName o.1, Strings.arithmetic o.1 o.2)

/-- All functions that give control away, by name. -/
def controls : Std.HashMap String Control :=
  Std.HashMap.ofList (Base.controls ++ Threads.controls.map fun f => ("coroutine." ++ f.1, f.2))

/-- The function of a name that gives control away. -/
def control? (name : String) : Option Control :=
  controls[name]?

/-- All native functions by name. -/
def table : Std.HashMap String Native :=
  Std.HashMap.ofList (Base.functions ++ Garbage.functions ++ Modules.functions ++
    modules.flatMap (fun m => inModule m.1 m.2) ++ inModule streamName Streams.methods ++
    inModule streamName Streams.events ++ hidden)

/-- The native function of a name. -/
def native? (name : String) : Option Native :=
  table[name]?

/-! ## The first state -/

/-- A step of building the first state. -/
abbrev Build := StateM State

/-- A native function as a value. -/
def addNative (name : String) (cells : Array Nat) : Build Value := do
  let (v, s) := (← get).addFunction (.native name cells)
  set s
  return v

/-- A cell. -/
def addCell (v : Value) : Build Nat := do
  let (id, s) := (← get).addCell v
  set s
  return id

/-- A table with some fields. -/
def addTable (fields : List (String × Value)) : Build Nat := do
  let t := fields.foldl (fun t f => t.set (.ofString f.1) f.2) (Table.withRoom 0 fields.length)
  let s ← get
  set (s.addTable t).2
  return s.tables.size

/-- Set a field. -/
def setField (id : Nat) (name : String) (v : Value) : Build Unit :=
  modify (·.modifyTable id (·.set (.ofString name) v))

/-- A table with functions, which have their names after that of the module, and some other
fields. -/
def addModule (name : String) (functions : List String) (others : List (String × Value)) :
    Build Nat := do
  let mut fields : List (String × Value) := []
  for f in functions do
    fields := (f, ← addNative (name ++ "." ++ f) #[]) :: fields
  addTable (others ++ fields.reverse)

/-- The basic functions as globals. -/
def buildBase (globals : Nat) : Build Unit := do
  let next ← addNative "next" #[]
  let step ← addNative "ipairs iterator" #[]
  for name in Base.names do
    let v ← match name with
      | "next" => pure next
      | "pairs" => addNative name #[← addCell next]
      | "ipairs" => addNative name #[← addCell step]
      | name => addNative name #[]
    setField globals name v
  setField globals "_G" (.table globals)
  setField globals "_VERSION" (.ofString "Lua 5.4")

/-- The module that loads modules. -/
def buildPackage (globals loaded : Nat) : Build Nat := do
  let package ← addTable []
  let cell ← addCell (.table package)
  let searchers := [← addNative "searcher of preloaded modules" #[cell],
    ← addNative "searcher of scripts" #[cell], ← addNative "searcher of nothing" #[cell]]
  let list ← addTable []
  modify (·.modifyTable list (·.setItems 1 searchers))
  setField package "loadlib" (← addNative "package.loadlib" #[cell])
  setField package "searchpath" (← addNative "package.searchpath" #[cell])
  setField package "preload" (.table (← addTable []))
  setField package "searchers" (.table list)
  setField package "path" (.ofString Modules.defaultPath)
  setField package "cpath" (.ofString Modules.defaultNativePath)
  setField package "config" (.ofString Modules.configuration)
  setField package "loaded" (.table loaded)
  setField globals "require" (← addNative "require" #[cell])
  return package

/-- What streams have in common, and the standard streams as fields of their module. -/
def buildStreams (io : Nat) : Build Unit := do
  let methods ← addModule streamName (Streams.methods.map (·.1)) []
  let streams ← addModule streamName (Streams.events.map (·.1))
    [("__name", .ofString streamName), ("__index", .table methods)]
  modify fun s => { s with streamMeta := some streams }
  for (name, x) in Streams.standard do
    let (v, s) := (← get).addStream x
    set s
    setField io name v

/-- The functions of a module that give control away. -/
def controlNames : String → List String
  | "coroutine" => Threads.controls.map (·.1)
  | _ => []

/-- What is known of the fields of a module that are no functions. -/
def constantsOf : String → List (String × Value)
  | "math" => Numbers.constants
  | "utf8" => [("charpattern", Unicode.charpattern)]
  | _ => []

/-- Put everything into place. -/
def build : Build Unit := do
  let globals ← addTable []
  let loaded ← addTable []
  buildBase globals
  setField loaded "_G" (.table globals)
  let package ← buildPackage globals loaded
  setField loaded "package" (.table package)
  setField globals "package" (.table package)
  for (name, functions) in modules do
    let id ← addModule name (functions.map (·.1) ++ controlNames name) (constantsOf name)
    setField loaded name (.table id)
    setField globals name (.table id)
    if name = "io" then buildStreams id
    if name = "string" then
      let mut fields : List (String × Value) := []
      for (op, _) in Strings.operations do
        fields := ("__" ++ op, ← addNative (Strings.operationName op) #[]) :: fields
      let strings ← addTable (fields.reverse ++ [("__index", .table id)])
      modify fun s => { s with stringMeta := some strings }
  modify fun s => { s with globals := globals, loaded := loaded }

/-- A state without any object; its first thread is the one that runs. -/
def emptyState : State where
  stack := #[]
  run := .idle
  tables := #[]
  functions := #[]
  cells := #[]
  threads := #[⟨.running, none, #[], .idle, .discard, none⟩]
  streams := #[]
  failures := #[]
  current := 0
  stringMeta := none
  streamMeta := none
  globals := 0
  loaded := 0
  defaultInput := 0
  defaultOutput := 1
  random := RandomState.ofSeed 0x2545F4914F6CDD1D 0
  collection := ⟨200, 100, false, true, false, false, 0⟩
  watched := []
  halted := none

/-- The state in which everything is in its place. -/
def initialState : State :=
  (build.run emptyState).2

end LuaShell.Lua.Library
