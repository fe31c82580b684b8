import LuaShell.Lua.Act

/-!
# The library of tables

Lists are what a table holds under the keys from one to its length.  All access goes
through metatables.
-/

namespace LuaShell.Lua.Library.Tables

/-- Check that an argument is a table, or behaves like one on some events. -/
def checkTable (args : List Value) (i : Nat) (events : List Event) : Act Value := do
  let v := Act.argument args i
  match v with
  | .table _ => return v
  | v =>
      let hasMeta ← Act.ofState fun s => (s.metatable? v).isSome &&
        events.all fun e => !(s.metamethod v e).isNil
      if hasMeta then return v else Act.failType args i "table"

/-- The length of a list. -/
def length (c : Calls) (v : Value) : Act Int := do
  return (← Act.length c v).toInt

/-- An item of a list. -/
def item (c : Calls) (v : Value) (i : Int) : Act Value :=
  Act.index c v (.int (Int64.ofInt i))

/-- Set an item of a list. -/
def setItem (c : Calls) (v : Value) (i : Int) (x : Value) : Act Unit :=
  Act.assign c v (.int (Int64.ofInt i)) x

/-- Put the items of a list together. -/
def join (c : Calls) (v : Value) (separator : ByteArray) : Nat → Int → ByteArray → Act ByteArray
  | 0, _, out => return out
  | n + 1, i, out => do
      let x ← item c v i
      match x.asBytes? with
      | some b =>
          join c v separator n (i + 1) (if n = 0 then out ++ b else out ++ b ++ separator)
      | none =>
          Act.fail s!"invalid value ({x.typeName}) at index {i} in table for 'concat'"

/-- `concat`. -/
def concat : Native := fun c _ args => do
  let v ← checkTable args 1 [.index, .len]
  let size ← length c v
  let separator ← Act.bytesOr args 2 .empty
  let first := (← Act.intOr args 3 1).toInt
  let last := (← Act.intOr args 4 (Int64.ofInt size)).toInt
  return [.str (← join c v separator (last - first + 1).toNat first .empty)]

/-- Move items up by one, the last one first. -/
def shiftUp (c : Calls) (v : Value) : Nat → Int → Act Unit
  | 0, _ => pure ()
  | n + 1, i => do
      setItem c v i (← item c v (i - 1))
      shiftUp c v n (i - 1)

/-- Whether a number is one from zero to another one; a negative one is beyond all others. -/
def isWithin (i n : Int) : Bool :=
  (Int64.ofInt i).toUInt64 ≤ (Int64.ofInt n).toUInt64

/-- `insert`. -/
def insert : Native := fun c _ args => do
  let v ← checkTable args 1 [.index, .newindex, .len]
  let next := Int64.toInt ((← Act.length c v) + 1)
  match args.length with
  | 2 => setItem c v next (Act.argument args 2)
  | 3 => do
      let i := (← Act.int args 2).toInt
      if !isWithin (i - 1) (next - 1) then Act.failAt 2 "position out of bounds"
      shiftUp c v (next - i).toNat next
      setItem c v i (Act.argument args 3)
  | _ => Act.fail "wrong number of arguments to 'insert'"
  return []

/-- Move items down by one, the first one first. -/
def shiftDown (c : Calls) (v : Value) : Nat → Int → Act Unit
  | 0, _ => pure ()
  | n + 1, i => do
      setItem c v i (← item c v (i + 1))
      shiftDown c v n (i + 1)

/-- `remove`. -/
def remove : Native := fun c _ args => do
  let v ← checkTable args 1 [.index, .newindex, .len]
  let size ← length c v
  let i := (← Act.intOr args 2 (Int64.ofInt size)).toInt
  if i != size && !isWithin (i - 1) size then Act.failAt 2 "position out of bounds"
  let x ← item c v i
  shiftDown c v (size - i).toNat i
  let last := if i < size then size else i
  setItem c v last .nil
  return [x]

/-- Copy items, the first one first or the last one first. -/
def copyItems (c : Calls) (source target : Value) (f t : Int) (step : Int) : Nat → Int → Act Unit
  | 0, _ => pure ()
  | n + 1, i => do
      setItem c target (t + i) (← item c source (f + i))
      copyItems c source target f t step n (i + step)

/-- `move`. -/
def move : Native := fun c _ args => do
  let f := (← Act.int args 2).toInt
  let e := (← Act.int args 3).toInt
  let t := (← Act.int args 4).toInt
  let place := if Act.isAbsent args 5 then 1 else 5
  let source ← checkTable args 1 [.index]
  let target ← checkTable args place [.newindex]
  if f ≤ e then
    if !(0 < f || e < Int64.maxValue.toInt + f) then Act.failAt 3 "too many elements to move"
    let count := e - f + 1
    if Int64.maxValue.toInt - count + 1 < t then Act.failAt 4 "destination wrap around"
    let isSame ← if place = 1 then pure true else Act.equal c source target
    if e < t || t ≤ f || !isSame then copyItems c source target f t 1 count.toNat 0
    else copyItems c source target f t (-1) count.toNat (count - 1)
  return [target]

/-- `pack`. -/
def pack : Native := fun _ _ args => do
  let t := (Table.withRoom args.length 1).setItems 1 args
  let t := t.set (.ofString "n") (.int (Int64.ofNat args.length))
  return [← Act.newTable t]

/-- Items of a list, after others in reverse. -/
def items (c : Calls) (v : Value) : Nat → Int → List Value → Act (List Value)
  | 0, _, before => return before.reverse
  | n + 1, i, before => do
      let x ← item c v i
      items c v n (i + 1) (x :: before)

/-- `unpack`. -/
def unpack : Native := fun c _ args => do
  let first := (← Act.intOr args 2 1).toInt
  let last ← if Act.isAbsent args 3 then length c (Act.argument args 1)
    else pure (← Act.int args 3).toInt
  if last < first then return []
  let count := (last - first + 1).toNat
  if !(← Act.hasRoom count) then Act.fail "too many results to unpack"
  items c (Act.argument args 1) count first []

/-! ## Sorting -/

/-- Whether one value goes before another in the order that is asked for. -/
def before (c : Calls) (order : Value) (a b : Value) : Act Bool := do
  match order with
  | .nil => Act.less c a b
  | f => return (((← c.call f [a, b]).head?).getD .nil).truthy

/-- Exchange two items, given their values. -/
def exchange (c : Calls) (v : Value) (i j : Int) (a b : Value) : Act Unit := do
  setItem c v i b
  setItem c v j a

/-- Fail because an order contradicts itself. -/
def badOrder {α : Type} : Act α :=
  Act.fail "invalid order function for sorting"

/-- The first place above `i` whose value does not go before the pivot. -/
def scanUp (c : Calls) (v order pivot : Value) (top : Int) : Nat → Int → Act (Int × Value)
  | 0, i => return (i, .nil)
  | n + 1, i => do
      let i := i + 1
      let x ← item c v i
      if ← before c order x pivot then
        if i = top - 1 then badOrder
        scanUp c v order pivot top n i
      else return (i, x)

/-- The first place below `j` whose value the pivot does not go before. -/
def scanDown (c : Calls) (v order pivot : Value) (bottom : Int) : Nat → Int → Act (Int × Value)
  | 0, j => return (j, .nil)
  | n + 1, j => do
      let j := j - 1
      let x ← item c v j
      if ← before c order pivot x then
        if j < bottom then badOrder
        scanDown c v order pivot bottom n j
      else return (j, x)

/-- Part the items between `lo` and `up` by the pivot, which stands before the last one. -/
def partition (c : Calls) (v order pivot : Value) (lo up : Int) : Nat → Int → Int → Act Int
  | 0, i, _ => return i
  | n + 1, i, j => do
      let size := (up - lo + 2).toNat
      let (i, a) ← scanUp c v order pivot up size i
      let (j, b) ← scanDown c v order pivot i size j
      if j < i then
        exchange c v (up - 1) i pivot a
        return i
      exchange c v i j a b
      partition c v order pivot lo up n i j

/-- Put two items in order. -/
def orderPair (c : Calls) (v order : Value) (i j : Int) : Act Unit := do
  let a ← item c v i
  let b ← item c v j
  if ← before c order b a then exchange c v i j a b

/-- Sort the items from `lo` to `up`. -/
def sortRange (c : Calls) (v order : Value) : Nat → Int → Int → Act Unit
  | 0, _, _ => pure ()
  | n + 1, lo, up => do
      if up ≤ lo then return
      orderPair c v order lo up
      if up - lo = 1 then return
      let p := (lo + up) / 2
      let a ← item c v p
      let first ← item c v lo
      if ← before c order a first then exchange c v p lo a first
      else
        let last ← item c v up
        if ← before c order last a then exchange c v p up a last
      if up - lo = 2 then return
      let pivot ← item c v p
      exchange c v p (up - 1) pivot (← item c v (up - 1))
      let m ← partition c v order pivot lo up (up - lo + 2).toNat lo (up - 1)
      if m - lo < up - m then
        sortRange c v order n lo (m - 1)
        sortRange c v order n (m + 1) up
      else
        sortRange c v order n (m + 1) up
        sortRange c v order n lo (m - 1)

/-- `sort`. -/
def sort : Native := fun c _ args => do
  let v ← checkTable args 1 [.index, .newindex, .len]
  let size ← length c v
  if 1 < size then
    if Int32.maxValue.toInt ≤ size then Act.failAt 1 "array too big"
    let order ← if Act.isAbsent args 2 then pure Value.nil else Act.function args 2
    sortRange c v order size.toNat 1 size
  return []

/-- The functions and their names. -/
def functions : List (String × Native) :=
  [("concat", concat), ("insert", insert), ("move", move), ("pack", pack), ("remove", remove),
   ("sort", sort), ("unpack", unpack)]

end LuaShell.Lua.Library.Tables
