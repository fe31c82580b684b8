import LuaShell.Lua.Instruction
import LuaShell.Lua.Token
import Std.Data.HashMap

/-!
# Reading with code in view

A source is read once from left to right, and the code of its functions is written
at the same time.  This is the state of that work: the token in hand, and for every
open function its code so far, its registers, variables, blocks, labels and jumps.
An instruction stands in the line of the last token that was taken when it was
written.
-/

namespace LuaShell.Lua

/-- What a name stands for in its function. -/
inductive VarKind where
  | register (r : Nat) (role : VarRole)
  /-- A constant that is known while reading. -/
  | known (value : Value)

/-- A variable. -/
structure LocalVar where
  name : String
  kind : VarKind
  /-- Its number among the names of the function; none for a known constant. -/
  entry : Option Nat

instance : Inhabited LocalVar := ⟨⟨"", .known .nil, none⟩⟩

/-- A label that is in scope: where it is, how many variables are in scope there, and how
many registers those have. -/
structure LabelMark where
  name : String
  line : Nat
  place : Nat
  active : Nat
  level : Nat

/-- Jumps whose label has not come yet. -/
structure PendingJump where
  /-- `none` leaves the loop. -/
  label : Option String
  line : Nat
  places : List Nat
  active : Nat
  level : Nat
  /-- Whether it leaves the scope of variables that have to be closed. -/
  closes : Bool

/-- A block that is open. -/
structure BlockScope where
  /-- How many variables were in scope, and how many labels and jumps there were. -/
  active : Nat
  labels : Nat
  jumps : Nat
  isLoop : Bool
  /-- Whether a closure keeps one of its variables, or one has to be closed. -/
  hasUpvalue : Bool
  isInsideClose : Bool

/-- A function that is open. -/
structure FunctionScope where
  code : Array Instr
  lines : Array Nat
  constants : Array Value
  protos : Array Proto
  upvalues : Array UpvalueInfo
  names : Array LocalName
  /-- The first register that is free, and how many there are. -/
  free : Nat
  registers : Nat
  /-- Variables, the last of which may not be in scope yet, and how many are. -/
  vars : Array LocalVar
  active : Nat
  /-- The last place that is the target of a jump. -/
  target : Nat
  blocks : List BlockScope
  labels : Array LabelMark
  jumps : Array PendingJump
  needsClose : Bool
  parameters : Nat
  isVararg : Bool
  line : Nat
  lastLine : Nat

instance : Inhabited FunctionScope :=
  ⟨⟨#[], #[], #[], #[], #[], #[], 0, 2, #[], 0, 0, [], #[], #[], false, 0, false, 0, 0⟩⟩

/-- A constant as one that can be found again. -/
inductive ConstantKey where
  | nil
  | bool (b : Bool)
  | int (n : Int64)
  | num (bits : UInt64)
  | str (bytes : ByteArray)
  deriving BEq, Hashable

/-- The state of the reader. -/
structure Reader where
  source : Source
  token : Token
  /-- The token after the one in hand, if it has been looked at. -/
  ahead : Option Token
  /-- The line of the last token that was taken. -/
  lastLine : Nat
  /-- How deep statements and expressions are nested. -/
  level : Nat
  /-- The open functions, innermost first. -/
  functions : List FunctionScope
  /-- The number that a constant got where it was last needed. -/
  numbers : Std.HashMap ConstantKey Nat
  /-- More than the number of tokens there can be. -/
  bound : Nat

/-- A step of the reader. -/
abbrev Parse := StateT Reader (Except SyntaxFault)

namespace Parse

/-! ## Tokens -/

/-- The line that has been reached. -/
def line : Parse Nat := return (← get).source.line

def token : Parse Token := return (← get).token

/-- Take the token in hand. -/
def advance : Parse Unit := fun s =>
  let s := { s with lastLine := s.source.line }
  match s.ahead with
  | some t => .ok ((), { s with token := t, ahead := none })
  | none => (s.source.next).map fun (t, source) => ((), { s with token := t, source := source })

/-- Look at the token after the one in hand. -/
def peek : Parse Token := fun s =>
  match s.ahead with
  | some t => .ok (t, s)
  | none => (s.source.next).map fun (t, source) => (t, { s with ahead := some t, source := source })

/-- Fail about the token in hand. -/
def fail {α : Type} (message : String) : Parse α := fun s =>
  Source.fault message s.token.near s.source.line

/-- Fail about the meaning of what was read. -/
def failMeaning {α : Type} (message : String) : Parse α := fun s =>
  Source.fault message [] s.source.line

/-- Whether the token in hand is this word or operator. -/
def isAt (text : String) : Parse Bool := do
  match ← token with
  | .symbol t => return t = text
  | _ => return false

/-- Take this word or operator if it is in hand. -/
def accept (text : String) : Parse Bool := do
  if ← isAt text then
    advance
    return true
  return false

/-- Take this word or operator. -/
def expect (text : String) : Parse Unit := do
  if ← isAt text then advance else fail s!"'{text}' expected"

/-- Take what closes something that was opened in a line above. -/
def expectMatch (what opener : String) (openLine : Nat) : Parse Unit := do
  if ← isAt what then advance
  else if (← line) = openLine then fail s!"'{what}' expected"
  else fail s!"'{what}' expected (to close '{opener}' at line {openLine})"

/-- Take a name. -/
def takeName : Parse String := do
  match ← token with
  | .name text =>
      advance
      return text
  | _ => fail "<name> expected"

/-- How deeply a source can be nested, together with the calls that wait for it. -/
def maxLevel : Nat := 200

/-- One level deeper, until that is too deep. -/
def nested {α : Type} (p : Parse α) : Parse α := do
  let s ← get
  if s.level + 1 = maxLevel then throw .tooDeep
  set { s with level := s.level + 1 }
  let a ← p
  modify fun s => { s with level := s.level - 1 }
  return a

/-! ## Functions -/

/-- The innermost function. -/
def scope : Parse FunctionScope := return ((← get).functions.head?).getD default

/-- Read something off the innermost function. -/
def ofScope {α : Type} (f : FunctionScope → α) : Parse α := return f (← scope)

/-- Change the innermost function. -/
def modifyScope (f : FunctionScope → FunctionScope) : Parse Unit :=
  modify fun s => match s.functions with
    | [] => s
    | g :: gs => { s with functions := f g :: gs }

/-- Fail because the function that begins at a line has too many of something. -/
def failLimit {α : Type} (line : Nat) (what : String) (limit : Nat) : Parse α := do
  let place := if line = 0 then "main function" else s!"function at line {line}"
  fail s!"too many {what} (limit is {limit}) in {place}"

/-- Do something over and over, as long as it says so. -/
def whileSaid {α : Type} (p : α → Parse (α × Bool)) (a : α) : Parse α := do
  go p (← get).bound a
where
  go (p : α → Parse (α × Bool)) : Nat → α → Parse α
    | 0, a => return a
    | n + 1, a => do
        let (a, goesOn) ← p a
        if goesOn then go p n a else return a

end Parse

namespace FunctionScope

/-- The number of registers that the first so many variables have. -/
def levelOf (f : FunctionScope) : Nat → Nat
  | 0 => 0
  | n + 1 => match f.vars[n]? with
    | some ⟨_, .register r _, _⟩ => r + 1
    | _ => f.levelOf n

/-- The number of registers that variables in scope have. -/
def level (f : FunctionScope) : Nat := f.levelOf f.active

end FunctionScope

end LuaShell.Lua
