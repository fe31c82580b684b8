import LuaShell.Lua.Value

/-!
# Tables of Lua

A table keeps the values of the keys `1` to some `n` in an array and all others in
nodes, of which there is a power of two.  Every key has a node in which it is looked
for first; keys that share one are chained.  When no node is free, both parts get new
sizes, such that more than half of the array is in use.  The order of the nodes is
the order in which a table is gone through, and what the length of a table with holes
is depends on the size of the array and on what was asked before.
-/

namespace LuaShell.Lua

/-- A place for a key and its value. -/
structure Node where
  /-- Nil if it was never used. A key whose value is nil keeps its place. -/
  key : Value
  value : Value
  /-- One more than the place of the next node of the chain, or zero. -/
  next : Nat

instance : Inhabited Node := ⟨⟨.nil, .nil, 0⟩⟩

/-- A table. -/
structure Table where
  /-- The values of the keys from one on. -/
  items : Array Value
  /-- Where the end of the sequence was when it was last looked for; the size of the array at
  first. -/
  hint : Nat
  nodes : Array Node
  /-- No node from here on is free. -/
  lastFree : Nat
  metatable : Option Nat
  /-- Whether it is told when it is not in use any more. -/
  isWatched : Bool

instance : Inhabited Table := ⟨⟨#[], 0, #[], 0, none, false⟩⟩

namespace Table

/-- The exponent of the least power of two that is not below a number. -/
def ceilLog (n : Nat) : Nat := if n ≤ 1 then 0 else Nat.log2 (n - 1) + 1

/-- Whether a number is zero or a power of two. -/
def isPower (n : Nat) : Bool := n = 0 || Nat.pow 2 (Nat.log2 n) = n

/-- So many free nodes, rounded up to a power of two; none for zero. -/
def freeNodes (n : Nat) : Array Node :=
  if n = 0 then #[] else Array.replicate (Nat.pow 2 (ceilLog n)) default

/-- An empty table with room for items and fields. -/
def withRoom (items fields : Nat) : Table :=
  let nodes := freeNodes fields
  ⟨Array.replicate items .nil, items, nodes, nodes.size, none, false⟩

/-! ## Keys -/

/-- Whether two keys as they are kept are the same. -/
def sameKey : Value → Value → Bool
  | .str a, .str b => a == b
  | .int a, .int b => a == b
  | .num a, .num b => a == b
  | .bool a, .bool b => a == b
  | .table a, .table b => a == b
  | .func a, .func b => a == b
  | .thread a, .thread b => a == b
  | .stream a, .stream b => a == b
  | .failure a, .failure b => a == b
  | _, _ => false

/-- A number for a double that is no integer: the leading digits of its fraction and its
exponent. -/
def floatNumber (x : Float) : Nat :=
  match Binary64.ofFloat x with
  | .finite negative m q =>
      let size := Nat.log2 m + 1
      let leading := if 31 < size then m / Nat.pow 2 (size - 31) else m * Nat.pow 2 (31 - size)
      let e : Int := q + size
      let u := (e + (if negative then -(leading : Int) else leading)) % 4294967296
      if u < 2147483648 then u.toNat else (4294967295 - u).toNat
  | _ => 0

/-- The node in which a key is looked for first. -/
def mainPlace (size : Nat) (k : Value) : Nat :=
  let odd := if size ≤ 2 then 1 else size - 1
  match k with
  | .str b => ((hash b).toUSize &&& (USize.ofNat (size - 1))).toNat
  | .int n => (n.toUInt64 % UInt64.ofNat odd).toNat
  | .num x => floatNumber x % odd
  | .bool b => if b && 2 ≤ size then 1 else 0
  | .table id => (17 * id + 5) % odd
  | .func id => (17 * id + 6) % odd
  | .thread id => (17 * id + 7) % odd
  | .stream id => (17 * id + 8) % odd
  | .failure id => (17 * id + 9) % odd
  | .nil => 0

/-- The place of a key in its chain. -/
def findFrom (nodes : Array Node) (k : Value) : Nat → Nat → Option Nat
  | 0, _ => none
  | fuel + 1, i => match nodes[i]? with
    | none => none
    | some node =>
        if sameKey node.key k then some i
        else if node.next = 0 then none
        else findFrom nodes k fuel (node.next - 1)

/-- The place of a key among the nodes. -/
def find? (t : Table) (k : Value) : Option Nat :=
  if t.nodes.size = 0 then none
  else findFrom t.nodes k t.nodes.size (mainPlace t.nodes.size k)

/-- The place of an integer key in the array, if it has one. -/
def itemIndex? (t : Table) (n : Int64) : Option Nat :=
  if 0 < n && n.toInt ≤ t.items.size then some (n.toInt.toNat - 1) else none

/-! ## Reading -/

/-- The value of a key among the nodes. -/
def getNode (t : Table) (k : Value) : Value :=
  match t.find? k with
  | some i => ((t.nodes[i]?).map (·.value)).getD .nil
  | none => .nil

/-- The value of an integer key. -/
def getInt64 (t : Table) (n : Int64) : Value :=
  match t.itemIndex? n with
  | some i => (t.items[i]?).getD .nil
  | none => t.getNode (.int n)

/-- The value of a key. -/
def get (t : Table) (k : Value) : Value :=
  match k with
  | .str b => t.getNode (.str b)
  | .int n => t.getInt64 n
  | .nil => .nil
  | .num x => match Value.intOfFloat? x with
    | some n => t.getInt64 n
    | none => t.getNode k
  | k => t.getNode k

/-- The value of a natural number. -/
def getInt (t : Table) (n : Nat) : Value :=
  if 1 ≤ n && n ≤ t.items.size then (t.items[n - 1]?).getD .nil
  else t.getNode (.int (Int64.ofNat n))

/-- Whether reading an integer key tells something new about where the sequence ends. -/
def isTold (t : Table) (n : Int64) : Bool :=
  t.hint < t.items.size && (t.hint : Int) < n.toInt && n.toInt ≤ t.items.size

/-- Take note that an integer key has been read. -/
def told (t : Table) (n : Int64) : Table :=
  if t.isTold n then { t with hint := n.toInt.toNat } else t

/-! ## Sizes -/

/-- The greatest key that can be in the array. -/
def maxItem : Nat := 2147483648

/-- Count an integer key among those in `(2^(i-1), 2^i]`. -/
def countKey (counts : Array Nat) (k : Value) : Array Nat :=
  match k with
  | .int n =>
      if 0 < n && n.toInt ≤ maxItem then counts.modify (ceilLog n.toInt.toNat) (· + 1) else counts
  | _ => counts

/-- How many keys of the array lie in `(2^(i-1), 2^i]`, for every `i`. -/
def countItems (t : Table) : Array Nat :=
  (t.items.foldl (fun (counts, n) v =>
    (if v.isNil then counts else counts.modify (ceilLog n) (· + 1), n + 1))
    (Array.replicate 32 0, 1)).1

/-- The greatest power of two of which more than half is in use, and how many keys that is. -/
def bestSize (counts : Array Nat) (total : Nat) : Nat × Nat :=
  let (_, best) := (List.range 32).foldl (fun (below, best) i =>
    let half := Nat.pow 2 i / 2
    let below := below + (counts[i]?).getD 0
    (below, if half < total && half < below then (Nat.pow 2 i, below) else best)) (0, (0, 0))
  best

/-- A place that is free, looked for downwards from the last one that was taken. -/
def freePlace (nodes : Array Node) : Nat → Option Nat
  | 0 => none
  | i + 1 => match nodes[i]? with
    | some ⟨.nil, _, _⟩ => some i
    | _ => freePlace nodes i

/-- The node before a place in a chain. -/
def before (nodes : Array Node) (place : Nat) : Nat → Nat → Nat
  | 0, i => i
  | fuel + 1, i =>
      let next := ((nodes[i]?).getD default).next
      if next = place + 1 || next = 0 then i else before nodes place fuel (next - 1)

/-- Other nodes. -/
@[noinline] def withNodes (t : Table) (f : Array Node → Array Node) : Table :=
  { t with nodes := f t.nodes }

/-- Put a key that is not there into a node, and answer whether one is free. A key in the node
where the new one is looked for first gives way if it is itself looked for elsewhere. -/
def insert (t : Table) (k v : Value) : Table × Bool :=
  let size := t.nodes.size
  if size = 0 then (t, false)
  else
    let main := mainPlace size k
    let there := (t.nodes[main]?).getD default
    if there.value.isNil then
      (t.withNodes (·.setIfInBounds main ⟨k, v, there.next⟩), true)
    else match freePlace t.nodes t.lastFree with
      | none => (t, false)
      | some free =>
          let other := mainPlace size there.key
          let t := { t with lastFree := free }
          if other = main then
            (t.withNodes fun nodes => (nodes.setIfInBounds free ⟨k, v, there.next⟩).setIfInBounds
              main { there with next := free + 1 }, true)
          else
            let previous := before t.nodes main size other
            (t.withNodes fun nodes =>
              let nodes := nodes.modify previous fun n => { n with next := free + 1 }
              (nodes.setIfInBounds free there).setIfInBounds main ⟨k, v, 0⟩, true)

/-- Put a value in place of that of a node. -/
def putNode (t : Table) (i : Nat) (v : Value) : Table :=
  t.withNodes fun nodes => nodes.modify i fun n => { n with value := v }

/-- Put a value at a place of the array. -/
@[noinline] def putItem (t : Table) (i : Nat) (v : Value) : Table :=
  { t with items := t.items.setIfInBounds i v }

/-- Set a key as it is kept if there is room for it. -/
def putWithin (t : Table) (k v : Value) : Table :=
  let item? : Option Nat := match k with
    | .int n => t.itemIndex? n
    | _ => none
  match item? with
  | some i => t.putItem i v
  | none => match t.find? k with
    | some i => t.putNode i v
    | none => (t.insert k v).1

/-- Give the parts new sizes. What was beyond the array comes first into the new nodes. -/
def resize (t : Table) (items nodes : Nat) : Table :=
  let fresh := freeNodes nodes
  let old := t.items
  let kept := old.extract 0 (min items old.size)
  let array := kept ++ Array.replicate (items - kept.size) .nil
  let empty : Table := ⟨array, items, fresh, fresh.size, t.metatable, t.isWatched⟩
  let beyond := (old.extract items old.size).foldl (fun (t, n) v =>
    (if v.isNil then t else t.putWithin (.int (Int64.ofNat n)) v, n + 1)) (empty, items + 1)
  t.nodes.foldl (fun t n => if n.value.isNil then t else t.putWithin n.key n.value) beyond.1

/-- Give the parts the sizes that are best for the keys that are there and one more. -/
def rehash (t : Table) (extra : Value) : Table :=
  let inArray := t.countItems
  let live := t.nodes.filter (!·.value.isNil)
  let counts := countKey (live.foldl (fun counts n => countKey counts n.key) inArray) extra
  let candidates := counts.foldl (· + ·) 0
  let total := inArray.foldl (· + ·) 0 + live.size + 1
  let (items, count) := bestSize counts candidates
  t.resize items (total - count)

/-! ## Writing -/

/-- Add a key that is not there. -/
def add (t : Table) (k v : Value) : Table :=
  if v.isNil then t
  else match t.insert k v with
    | (t, true) => t
    | (t, false) => (t.rehash k).putWithin k v

/-- Set the value of a key among the nodes. -/
def setNode (t : Table) (k v : Value) : Table :=
  match t.find? k with
  | some i => t.putNode i v
  | none => t.add k v

/-- Set the value of an integer key. -/
def setInt64 (t : Table) (n : Int64) (v : Value) : Table :=
  match t.itemIndex? n with
  | some i => (t.told n).putItem i v
  | none => t.setNode (.int n) v

/-- Set the value of a key. Nil and what is no number are no keys. -/
def set (t : Table) (k v : Value) : Table :=
  match k with
  | .int n => t.setInt64 n v
  | .nil => t
  | .num x => match Value.intOfFloat? x with
    | some n => t.setInt64 n v
    | none => if x.isNaN then t else t.setNode k v
  | k => t.setNode k v

/-- Set the value of a natural number. -/
def setInt (t : Table) (n : Nat) (v : Value) : Table :=
  t.setInt64 (Int64.ofNat n) v

/-- Set items from a number on; the array gets as long as that. -/
def setItems (t : Table) (first : Nat) (vs : List Value) : Table :=
  let last := first + vs.length - 1
  let t := if t.items.size < last then t.resize last t.nodes.size else t
  (vs.foldl (fun (t, n) v => (t.setInt n v, n + 1)) (t, first)).1

/-! ## Length -/

/-- Between a number whose value is there and one whose value is not, a last one that is. -/
def border (absent : Nat → Bool) : Nat → Nat → Nat → Nat
  | 0, i, _ => i
  | fuel + 1, i, j =>
      if j - i ≤ 1 then i
      else
        let m := (i + j) / 2
        if absent m then border absent fuel i m else border absent fuel m j

/-- The greatest integer. -/
def maxInt : Nat := 9223372036854775807

/-- Double a number until its value is not there. -/
def unbound (absent : Nat → Bool) : Nat → Nat → Nat → Nat
  | 0, i, _ => i
  | fuel + 1, i, j =>
      if absent j then border absent 64 i j
      else if j ≤ maxInt / 2 then unbound absent fuel j (2 * j)
      else if absent maxInt then border absent 64 j maxInt
      else maxInt

/-- The length: a number whose value is there while that of the next is not. The table takes
note of it where that helps to find it again. -/
def length (t : Table) : Nat × Table :=
  let absent (n : Nat) : Bool := (t.getInt n).isNil
  let size := t.items.size
  let noted (n : Nat) : Nat × Table :=
    (n, if isPower size && size / 2 < n then { t with hint := n } else t)
  let beyond (t : Table) : Nat × Table :=
    if t.nodes.size = 0 || absent (size + 1) then (size, t)
    else (unbound absent 64 (max 1 size) (2 * max 1 size), t)
  if 0 < t.hint && absent t.hint then
    if 2 ≤ t.hint && !absent (t.hint - 1) then noted (t.hint - 1)
    else noted (border absent 64 0 t.hint)
  else if t.hint < size then
    if absent (t.hint + 1) then (t.hint, t)
    else if absent size then
      let n := border absent 64 t.hint size
      (n, { t with hint := n })
    else beyond t
  else beyond t

/-! ## Going through -/

/-- The first item that is there, from a place in the array on. -/
def nextItem (t : Table) : Nat → Nat → Option (Value × Value)
  | 0, _ => none
  | fuel + 1, i => match t.items[i]? with
    | none => none
    | some v =>
        if v.isNil then nextItem t fuel (i + 1) else some (.int (Int64.ofNat (i + 1)), v)

/-- The first node with a value, from a place on. -/
def nextNode (t : Table) : Nat → Nat → Option (Value × Value)
  | 0, _ => none
  | fuel + 1, i => match t.nodes[i]? with
    | none => none
    | some n => if n.value.isNil then nextNode t fuel (i + 1) else some (n.key, n.value)

/-- The key after a key, and its value; `none` for a key that is not there. -/
def next (t : Table) (k : Value) : Option (Option (Value × Value)) :=
  let nodes (i : Nat) : Option (Value × Value) := t.nextNode (t.nodes.size + 1) i
  let items (i : Nat) : Option (Value × Value) :=
    (t.nextItem (t.items.size + 1) i).or (nodes 0)
  let inNodes : Option (Option (Value × Value)) := (t.find? k).map fun i => nodes (i + 1)
  match k with
  | .nil => some (items 0)
  | .int n => match t.itemIndex? n with
    | some i => some (items (i + 1))
    | none => inNodes
  | _ => inNodes

/-- All keys with their values, in the order of going through. -/
def toList (t : Table) : List (Value × Value) :=
  ((t.items.toList.zipIdx.map fun (x : Value × Nat) => (Value.int (Int64.ofNat (x.2 + 1)), x.1)) ++
    t.nodes.toList.map fun n : Node => (n.key, n.value)).filter (!·.2.isNil)

end Table

end LuaShell.Lua
