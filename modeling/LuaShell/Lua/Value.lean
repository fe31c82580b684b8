import LuaShell.Number.Notation
import LuaShell.Text.Utf8

/-!
# Values of Lua

Nil, truth values, integers of sixty-four bits, doubles and byte strings stand for
themselves.  Tables, functions, threads and caught failures are known by a number;
what they are is kept in the state of the engine.
-/

namespace LuaShell.Lua

/-- A value. -/
inductive Value where
  | nil
  | bool (b : Bool)
  | int (n : Int64)
  | num (x : Float)
  | str (bytes : ByteArray)
  | table (id : Nat)
  | func (id : Nat)
  | thread (id : Nat)
  /-- An open or closed stream of bytes. -/
  | stream (id : Nat)
  /-- A failure of a native function that a script has caught. -/
  | failure (id : Nat)

instance : Inhabited Value := ⟨.nil⟩

namespace Value

/-- The value of a text. -/
def ofString (s : String) : Value := .str s.toUTF8

/-- A text up to a byte zero. -/
def untilZero (b : ByteArray) : ByteArray :=
  match b.data.findIdx? (· = 0) with
  | some i => b.extract 0 i
  | none => b

/-- All but nil and false count as true. -/
def truthy : Value → Bool
  | .nil => false
  | .bool b => b
  | _ => true

def isNil : Value → Bool
  | .nil => true
  | _ => false

/-- The type, as scripts see it. -/
def typeName : Value → String
  | .nil => "nil"
  | .bool _ => "boolean"
  | .int _ => "number"
  | .num _ => "number"
  | .str _ => "string"
  | .table _ => "table"
  | .func _ => "function"
  | .thread _ => "thread"
  | .stream _ => "userdata"
  | .failure _ => "userdata"

/-- The kind, as native functions see it: integers and failures are kinds of their own. -/
def kindName : Value → String
  | .int _ => "integer"
  | .failure _ => "error"
  | v => v.typeName

/-- The double of an integer. -/
def floatOfInt (n : Int64) : Float := Float.ofInt n.toInt

/-- The integer that a double is, if it is one of sixty-four bits. -/
def intOfFloat? (x : Float) : Option Int64 :=
  match (Binary64.ofFloat x).exactInt? with
  | some n => if Int64.minValue.toInt ≤ n && n ≤ Int64.maxValue.toInt then some (Int64.ofInt n) else none
  | none => none

/-- Compare an integer with a double exactly; `none` for no number. -/
def compareIntFloat (n : Int64) (x : Float) : Option Ordering :=
  match Binary64.ofFloat x with
  | .nan => none
  | .infinite negative => some (if negative then .gt else .lt)
  | .finite negative m q =>
      let s : Int := if negative then -m else m
      let (a, b) : Int × Int :=
        if 0 ≤ q then (n.toInt, s * Nat.pow 2 q.toNat) else (n.toInt * Nat.pow 2 (-q).toNat, s)
      some (compare a b)

/-- Equality without any metamethod. -/
def rawEquals : Value → Value → Bool
  | .nil, .nil => true
  | .bool a, .bool b => a = b
  | .int a, .int b => a = b
  | .num a, .num b => a == b
  | .int a, .num b => compareIntFloat a b = some .eq
  | .num a, .int b => compareIntFloat b a = some .eq
  | .str a, .str b => a == b
  | .table a, .table b => a = b
  | .func a, .func b => a = b
  | .thread a, .thread b => a = b
  | .stream a, .stream b => a = b
  | .failure a, .failure b => a = b
  | _, _ => false

/-- The text of a double with fourteen significant digits. -/
def plainFloatText (x : Float) : String :=
  match Binary64.ofFloat x with
  | .nan => "nan"
  | .infinite negative => if negative then "-inf" else "inf"
  | .finite negative m q => (if negative then "-" else "") ++ Notation.general 14 false m q

/-- The text of a double, with a sign of being no integer if it could be taken for one. -/
def floatText (x : Float) : String :=
  let body := plainFloatText x
  if body.all fun c => c.isDigit || c = '-' then body ++ ".0" else body

/-- The text of an integer. -/
def intText (n : Int64) : String := toString n.toInt

/-- Where an object seems to be kept: a number that no other object has. -/
def address (id kind : Nat) : String :=
  "0x" ++ String.ofList (Nat.toDigits 16 (0x55d000000000 + 1024 * id + 64 * kind))

/-- The text of a value without any metamethod. A failure has its text in the engine. -/
def rawText : Value → ByteArray
  | .nil => "nil".toUTF8
  | .bool b => (if b then "true" else "false").toUTF8
  | .int n => (intText n).toUTF8
  | .num x => (floatText x).toUTF8
  | .str s => s
  | .table id => s!"table: {address id 0}".toUTF8
  | .func id => s!"function: {address id 1}".toUTF8
  | .thread id => s!"thread: {address id 2}".toUTF8
  | .stream id => s!"userdata: {address id 4}".toUTF8
  | .failure id => s!"userdata: {address id 3}".toUTF8

end Value

end LuaShell.Lua
