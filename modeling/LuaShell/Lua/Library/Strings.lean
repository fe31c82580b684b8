import LuaShell.Lua.Act
import LuaShell.Lua.Binary
import LuaShell.Lua.Format
import LuaShell.Lua.Packing
import LuaShell.Lua.Pattern

/-!
# The library of strings

Positions count bytes from one; negative ones count from the end.
-/

namespace LuaShell.Lua.Library.Strings

/-! ## Positions -/

/-- The first position of a part: counted from the end if negative, and one at least. -/
def startPosition (n : Int64) (size : Nat) : Nat :=
  let i := n.toInt
  if 0 < i then i.toNat
  else if i = 0 || i < -(size : Int) then 1
  else (size + i + 1).toNat

/-- The last position of a part: counted from the end if negative, and the size at most. -/
def endPosition (n : Int64) (size : Nat) : Nat :=
  let i := n.toInt
  if (size : Int) < i then size
  else if 0 ≤ i then i.toNat
  else if i < -(size : Int) then 0
  else (size + i + 1).toNat

/-- A natural number as a value. -/
def ofNat (n : Nat) : Value := .int (Int64.ofNat n)

/-- Fail where a pattern fails. -/
def orFail {α : Type} : Except String α → Act α
  | .ok a => pure a
  | .error message => Act.fail message

/-! ## Simple functions -/

/-- `len`. -/
def len : Native := fun _ _ args => return [ofNat (← Act.bytes args 1).size]

/-- `sub`. -/
def sub : Native := fun _ _ args => do
  let b ← Act.bytes args 1
  let first := startPosition (← Act.int args 2) b.size
  let last := endPosition (← Act.intOr args 3 (-1)) b.size
  return [.str (b.extract (first - 1) last)]

/-- Every byte changed. -/
def mapBytes (f : UInt8 → UInt8) : Native := fun _ _ args => do
  let b ← Act.bytes args 1
  return [.str ⟨b.data.map f⟩]

/-- `lower`. -/
def lower : Native := mapBytes fun b => if isUpper b then b + 32 else b

/-- `upper`. -/
def upper : Native := mapBytes fun b => if isLower b then b - 32 else b

/-- `reverse`. -/
def reverse : Native := fun _ _ args => do
  let b ← Act.bytes args 1
  return [.str ⟨b.data.reverse⟩]

/-- The greatest size of a string that is made by repeating. -/
def maxSize : Nat := 0x7fffffff

/-- `rep`. -/
def rep : Native := fun _ _ args => do
  let b ← Act.bytes args 1
  let n := (← Act.int args 2).toInt
  let separator ← Act.bytesOr args 3 .empty
  if n ≤ 0 then return [.str .empty]
  if maxSize < (b.size + separator.size) * n.toNat then Act.fail "resulting string too large"
  let piece := b ++ separator
  let count := if piece.isEmpty then 0 else n.toNat - 1
  return [.str (Nat.repeat (· ++ piece) count .empty ++ b)]

/-- `byte`. -/
def byte : Native := fun _ _ args => do
  let b ← Act.bytes args 1
  let i ← Act.intOr args 2 1
  let first := startPosition i b.size
  let last := endPosition (← Act.intOr args 3 i) b.size
  let count := last + 1 - first
  if 0x7fffffff < count then Act.fail "string slice too long"
  Act.ensureRoom count "string slice too long"
  return (b.extract (first - 1) last).data.toList.map fun x => ofNat x.toNat

/-- `char`. -/
def char : Native := fun _ _ args => do
  let mut bytes : Array UInt8 := #[]
  for i in List.range args.length do
    let n := (← Act.int args (i + 1)).toInt
    if n < 0 || 255 < n then Act.failAt (i + 1) "value out of range"
    bytes := bytes.push (UInt8.ofNat n.toNat)
  return [.str ⟨bytes⟩]

/-- `dump`. Only functions of scripts have a form as a string. -/
def dump : Native := fun _ _ args => do
  let isStripped := (Act.argument args 2).truthy
  match ← Act.function args 1 with
  | .func id => match ← Act.ofState (·.functions[id]?) with
    | some (.closure p _) => return [.str (Binary.ofProto isStripped p)]
    | _ => Act.fail "unable to dump given function"
  | _ => Act.fail "unable to dump given function"

/-! ## Searching -/

/-- Whether a text has no character with a meaning in patterns. -/
def isPlain (pattern : ByteArray) : Bool :=
  pattern.data.all fun b => !("^$*+?.([%-".toUTF8.data.contains b)

/-- The first place of a part, from a place on. -/
def findPlain? (subject part : ByteArray) : Nat → Nat → Option Nat
  | 0, _ => none
  | n + 1, i =>
      if subject.size < i + part.size then none
      else if subject.extract i (i + part.size) = part then some i
      else findPlain? subject part n (i + 1)

/-- A match and the values of its captures. -/
def matchFrom (subject pattern : ByteArray) (i : Nat) : Act (Option (Nat × Nat × Array Pattern.Capture)) :=
  orFail (Pattern.search subject pattern (subject.size + 2) i)

/-- The place to search from, if it is in the subject. -/
def searchStart? (args : List Value) (subject : ByteArray) : Act (Option Nat) := do
  let i := startPosition (← Act.intOr args 3 1) subject.size
  return if subject.size + 1 < i then none else some (i - 1)

/-- `find`. -/
def find : Native := fun _ _ args => do
  let subject ← Act.bytes args 1
  let pattern ← Act.bytes args 2
  match ← searchStart? args subject with
  | none => return [.nil]
  | some i =>
      if (Act.argument args 4).truthy || isPlain pattern then
        match findPlain? subject pattern (subject.size + 1) i with
        | some i => return [ofNat (i + 1), ofNat (i + pattern.size)]
        | none => return [.nil]
      else match ← matchFrom subject pattern i with
        | none => return [.nil]
        | some (first, stop, captures) =>
            let values ← orFail (Pattern.captureValues subject first stop captures false)
            return ofNat (first + 1) :: ofNat stop :: values

/-- `match`. -/
def matchOnce : Native := fun _ _ args => do
  let subject ← Act.bytes args 1
  let pattern ← Act.bytes args 2
  match ← searchStart? args subject with
  | none => return [.nil]
  | some i => match ← matchFrom subject pattern i with
    | none => return [.nil]
    | some (first, stop, captures) =>
        orFail (Pattern.captureValues subject first stop captures true)

/-- The first match from a place on that does not end where the last one did. -/
def nextMatch (subject pattern : ByteArray) (last : Option Nat) : Nat → Nat →
    Except String (Option (Nat × Nat × Array Pattern.Capture))
  | 0, _ => .ok none
  | n + 1, s => match Pattern.run subject pattern s 0 with
    | .error e => .error e
    | .ok found =>
        match found.filter fun f => some f.1 != last with
        | some (stop, captures) => .ok (some (s, stop, captures))
        | none => if subject.size ≤ s then .ok none else nextMatch subject pattern last n (s + 1)

/-- The iterator of `gmatch`. Its cells hold the subject, the pattern, the place to go on
from and where the last match ended. -/
def gmatchNext : Native := fun _ cells _ => do
  let cell (i : Nat) : Act Value := Act.ofState (·.cell (cells[i]?.getD 0))
  let setCell (i n : Nat) : Act Unit := Act.change (·.setCell (cells[i]?.getD 0) (ofNat n))
  let subject := ((← cell 0).asBytes?).getD .empty
  let pattern := ((← cell 1).asBytes?).getD .empty
  let start := (((← cell 2).toInt?).getD 0).toInt.toNat
  let last := (← cell 3).toInt?.map (·.toInt.toNat)
  if subject.size < start then return []
  match ← orFail (nextMatch subject pattern last (subject.size + 2) start) with
  | none => return []
  | some (first, stop, captures) => do
      setCell 2 stop
      setCell 3 stop
      orFail (Pattern.captureValues subject first stop captures true)

/-- The name of the iterator. -/
def gmatchNextName : String := "string.gmatch iterator"

/-- `gmatch`. -/
def gmatch : Native := fun _ _ args => do
  let subject ← Act.bytes args 1
  let pattern ← Act.bytes args 2
  let i := startPosition (← Act.intOr args 3 1) subject.size
  let start := if subject.size + 1 < i then subject.size + 1 else i - 1
  let a ← Act.update (·.addCell (.str subject))
  let b ← Act.update (·.addCell (.str pattern))
  let c ← Act.update (·.addCell (ofNat start))
  let d ← Act.update (·.addCell .nil)
  return [← Act.update (·.addFunction (.native gmatchNextName #[a, b, c, d]))]

/-! ## Replacing -/

/-- The text that a replacement text stands for. -/
def expand (subject : ByteArray) (first stop : Nat) (captures : Array Pattern.Capture) :
    List UInt8 → Except String (List UInt8)
  | [] => .ok []
  | 37 :: rest => match rest with
    | [] => .error "invalid use of '%' in replacement string"
    | d :: rest =>
        if d = 37 then (expand subject first stop captures rest).map (37 :: ·)
        else if d = 48 then
          (expand subject first stop captures rest).map
            ((subject.extract first stop).data.toList ++ ·)
        else if isDigit d then
          match Pattern.captureValue subject first stop captures (d.toNat - 49) with
          | .error e => .error e
          | .ok v =>
              let text := ((v.asBytes?).getD .empty).data.toList
              (expand subject first stop captures rest).map (text ++ ·)
        else .error "invalid use of '%' in replacement string"
  | b :: rest => (expand subject first stop captures rest).map (b :: ·)

/-- What one match is replaced by. -/
def replacement (c : Calls) (subject : ByteArray) (value : Value) (first stop : Nat)
    (captures : Array Pattern.Capture) : Act ByteArray := do
  let whole := subject.extract first stop
  let orWhole (v : Value) : Act ByteArray :=
    if !v.truthy then pure whole
    else match v.asBytes? with
      | some b => pure b
      | none => Act.fail s!"invalid replacement value (a {v.typeName})"
  match value with
  | .func _ =>
      let values ← orFail (Pattern.captureValues subject first stop captures true)
      orWhole (((← c.call value values).head?).getD .nil)
  | .table _ =>
      let key ← orFail (Pattern.captureValue subject first stop captures 0)
      orWhole (← Act.index c value key)
  | v =>
      let text := ((v.asBytes?).getD .empty).data.toList
      return ⟨(← orFail (expand subject first stop captures text)).toArray⟩

/-- Replace matches from a place on; the answer is the new text and the number of matches. -/
def replaceFrom (c : Calls) (subject pattern : ByteArray) (value : Value) (isAnchored : Bool) :
    Nat → Nat → Nat → Option Nat → ByteArray → Nat → Act (ByteArray × Nat)
  | 0, _, s, _, out, count => return (out ++ subject.extract s subject.size, count)
  | fuel + 1, left, s, last, out, count => do
      if left = 0 then return (out ++ subject.extract s subject.size, count)
      let found ← orFail (Pattern.run subject pattern s (if isAnchored then 1 else 0))
      match found.filter fun f => some f.1 != last with
      | some (stop, captures) =>
          let out := out ++ (← replacement c subject value s stop captures)
          if isAnchored then return (out ++ subject.extract stop subject.size, count + 1)
          replaceFrom c subject pattern value isAnchored fuel (left - 1) stop (some stop) out
            (count + 1)
      | none =>
          if subject.size ≤ s then return (out, count)
          let out := out ++ subject.extract s (s + 1)
          if isAnchored then return (out ++ subject.extract (s + 1) subject.size, count)
          replaceFrom c subject pattern value isAnchored fuel left (s + 1) last out count

/-- `gsub`. -/
def gsub : Native := fun c _ args => do
  let subject ← Act.bytes args 1
  let pattern ← Act.bytes args 2
  let value := Act.argument args 3
  let most := (← Act.intOr args 4 (Int64.ofNat (subject.size + 1))).toInt.toNat
  match value with
  | .int _ | .num _ | .str _ | .func _ | .table _ => pure ()
  | _ => Act.failType args 3 "string/function/table"
  let (text, count) ← replaceFrom c subject pattern value (Pattern.isAnchored pattern)
    (2 * subject.size + 4) most 0 none .empty 0
  return [.str text, ofNat count]

/-! ## Formatting -/

/-- The direction of some modifiers and a letter. -/
def direction (modifiers : List Char) (letter : Char) : Act Direction :=
  match Direction.make? modifiers letter with
  | some d => pure d
  | none =>
      let text := String.ofList ('%' :: modifiers ++ [letter])
      Act.fail s!"invalid conversion specification: '{text}'"

/-- The text of where a value is kept. -/
def pointerText : Value → String
  | .table id => Value.address id 0
  | .func id => Value.address id 1
  | .thread id => Value.address id 2
  | .failure id => Value.address id 3
  | .stream id => Value.address id 4
  | .str b => Value.address b.hash.toNat 5
  | _ => "(null)"

/-- Write an argument as a direction says. Which of two faults is found depends on the
letter. -/
def writeArgument (c : Calls) (modifiers : List Char) (letter : Char) (args : List Value)
    (i : Nat) : Act ByteArray := do
  match letter with
  | 'd' | 'i' | 'u' | 'o' | 'x' | 'X' =>
      let n ← Act.int args i
      return ((← direction modifiers letter).writeInt n).toUTF8
  | 'c' =>
      let d ← direction modifiers letter
      let n ← Act.int args i
      return d.writeBytes ⟨#[UInt8.ofNat (n.toInt % 256).toNat]⟩
  | 'e' | 'E' | 'f' | 'g' | 'G' =>
      let x ← Act.float args i
      return ((← direction modifiers letter).writeFloat x).toUTF8
  | 'a' | 'A' =>
      let d ← direction modifiers letter
      return (d.writeFloat (← Act.float args i)).toUTF8
  | 'p' =>
      let d ← direction modifiers letter
      return d.writeBytes (pointerText (Act.argument args i)).toUTF8
  | 'q' =>
      if !modifiers.isEmpty then Act.fail "specifier '%q' cannot have modifiers"
      match Literal.write? (Act.argument args i) with
      | some b => return b
      | none => Act.failAt i "value has no literal form"
  | 's' =>
      let text ← Act.display c (Act.argument args i)
      if modifiers.isEmpty then return text
      if text.data.contains 0 then Act.failAt i "string contains zeros"
      let d ← direction modifiers letter
      if d.precision.isNone && 100 ≤ text.size then return text
      return d.writeBytes text
  | _ =>
      let text := String.ofList ('%' :: modifiers ++ [letter])
      Act.failBytes ("invalid conversion '".toUTF8 ++
        Value.untilZero ⟨(text.toList.map fun c => UInt8.ofNat c.toNat).toArray⟩ ++
        "' to 'format'".toUTF8)

/-- Follow one direction, whose modifiers and letter have been read. -/
def follow (c : Calls) (args : List Value) (i : Nat) (modifiers : List Char)
    (letter : Option Char) : Act ByteArray := do
  if args.length < i then Act.failAt i "no value"
  if Direction.maxModifiers < modifiers.length then Act.fail "invalid format (too long)"
  writeArgument c modifiers (letter.getD (Char.ofNat 0)) args i

/-- The characters of bytes, one for each. -/
def charsOf (bs : List UInt8) : List Char :=
  bs.map fun b => Char.ofNat b.toNat

/-- Write a format, of which so many arguments have been used. -/
def write (c : Calls) (args : List Value) : Nat → List UInt8 → Nat → ByteArray → Act ByteArray
  | 0, _, _, out => return out
  | n + 1, bs, used, out => match bs with
    | [] => return out
    | 37 :: 37 :: rest => write c args n rest used (out.push 37)
    | 37 :: rest => do
        let (modifiers, letter, _) := Direction.cut (charsOf (rest.take 40))
        let text ← follow c args (used + 1) modifiers letter
        write c args n (rest.drop (modifiers.length + 1)) (used + 1) (out ++ text)
    | b :: rest => write c args n rest used (out.push b)

/-- `format`. -/
def format : Native := fun c _ args => do
  let b ← Act.bytes args 1
  return [.str (← write c args (b.size + 1) b.data.toList 1 .empty)]

/-! ## Packing -/

/-- Fail where a format fails. -/
def orPackFault {α : Type} : Except PackFault α → Act α
  | .ok a => pure a
  | .error (.text message) => Act.fail message
  | .error (.argument i message) => Act.failAt i message

/-- Pack one argument; answers its bytes and how many of them go beyond its size. -/
def packArgument (m : PackMode) (item : PackItem) (size : Nat) (args : List Value) (i : Nat) :
    Act (List UInt8 × Nat) := do
  match item with
  | .signed =>
      let n := (← Act.int args i).toInt
      if size < 8 && (2 * n < -PackMode.bound size || PackMode.bound size ≤ 2 * n) then
        Act.failAt i "integer overflow"
      return (m.packInt size n, 0)
  | .unsigned =>
      let n := (← Act.int args i).toUInt64.toNat
      if size < 8 && PackMode.bound size ≤ n then Act.failAt i "unsigned overflow"
      return (m.packInt size n, 0)
  | .single | .double => return (m.packFloat size (← Act.float args i), 0)
  | .chars =>
      let b := (← Act.bytes args i).data.toList
      if size < b.length then Act.failAt i "string longer than given size"
      return (b ++ List.replicate (size - b.length) 0, 0)
  | .counted =>
      let b := (← Act.bytes args i).data.toList
      if size < 8 && PackMode.bound size ≤ b.length then
        Act.failAt i "string length does not fit in given size"
      return (m.packInt size b.length ++ b, b.length)
  | .zeroEnded =>
      let b := (← Act.bytes args i).data.toList
      if b.contains 0 then Act.failAt i "string contains zeros"
      return (b ++ [0], b.length + 1)
  | .padding => return ([0], 0)
  | .alignment | .nothing => return ([], 0)

/-- Whether an item of a format stands for a value. -/
def isPacked : PackItem → Bool
  | .padding | .alignment | .nothing => false
  | _ => true

/-- Pack arguments from one on; `total` counts the bytes so far. -/
def packAll (args : List Value) : Nat → PackMode → List UInt8 → Nat → Nat → ByteArray →
    Act ByteArray
  | 0, _, _, _, _, out => return out
  | _, _, [], _, _, out => return out
  | n + 1, m, letter :: rest, i, total, out => do
      let (item, size, gap, m, rest) ← orPackFault (m.item total letter rest)
      let (bytes, more) ← packArgument m item size args i
      let i := if isPacked item then i + 1 else i
      packAll args n m rest i (total + gap + size + more)
        (out ++ ⟨(List.replicate gap 0 ++ bytes).toArray⟩)

/-- `pack`. -/
def pack : Native := fun _ _ args => do
  let format := (← Act.text args 1).data.toList
  return [.str (← packAll args (format.length + 1) .start format 2 0 .empty)]

/-- The size of what a format packs. -/
def sizeOf : Nat → PackMode → List UInt8 → Nat → Act Nat
  | 0, _, _, total => return total
  | _, _, [], total => return total
  | n + 1, m, letter :: rest, total => do
      let (item, size, gap, m, rest) ← orPackFault (m.item total letter rest)
      if item = .counted || item = .zeroEnded then Act.failAt 1 "variable-length format"
      if maxSize < total + size + gap then Act.failAt 1 "format result too large"
      sizeOf n m rest (total + gap + size)

/-- `packsize`. -/
def packsize : Native := fun _ _ args => do
  let format := (← Act.text args 1).data.toList
  return [ofNat (← sizeOf (format.length + 1) .start format 0)]

/-- The value that stands at a place of packed bytes, and how many bytes go beyond its size. -/
def unpackItem (m : PackMode) (item : PackItem) (size : Nat) (data : ByteArray) (place : Nat) :
    Act (Value × Nat) := do
  let bytes := data.extract place (place + size)
  let int (isSigned : Bool) : Act Int64 :=
    match m.unpackInt? isSigned bytes.data.toList with
    | some n => pure n
    | none => Act.fail s!"{size}-byte integer does not fit into Lua Integer"
  match item with
  | .signed => return (.int (← int true), 0)
  | .unsigned => return (.int (← int false), 0)
  | .single | .double => return (.num (m.unpackFloat bytes.data.toList), 0)
  | .chars => return (.str bytes, 0)
  | .counted =>
      let count := (← int false).toUInt64.toNat
      if data.size < place + size + count then Act.failAt 2 "data string too short"
      return (.str (data.extract (place + size) (place + size + count)), count)
  | .zeroEnded =>
      let rest := data.extract place data.size
      let text := Value.untilZero rest
      if text.size = rest.size then Act.failAt 2 "unfinished string for format 'z'"
      return (.str text, text.size + 1)
  | .padding | .alignment | .nothing => return (.nil, 0)

/-- Unpack values from a place on, after others in reverse. -/
def unpackAll (data : ByteArray) : Nat → PackMode → List UInt8 → Nat → List Value →
    Act (List Value)
  | 0, _, _, _, before => return before.reverse
  | _, _, [], place, before => return (ofNat (place + 1) :: before).reverse
  | n + 1, m, letter :: rest, place, before => do
      let (item, size, gap, m, rest) ← orPackFault (m.item place letter rest)
      if data.size < place + gap + size then Act.failAt 2 "data string too short"
      let (v, more) ← unpackItem m item size data (place + gap)
      unpackAll data n m rest (place + gap + size + more)
        (if isPacked item then v :: before else before)

/-- `unpack`. -/
def unpack : Native := fun _ _ args => do
  let format := (← Act.text args 1).data.toList
  let data ← Act.bytes args 2
  let place := startPosition (← Act.intOr args 3 1) data.size - 1
  if data.size < place then Act.failAt 3 "initial position out of string"
  unpackAll data (format.length + 1) .start format place []

/-! ## Arithmetic with strings -/

/-- What an operation on two numbers comes to; without one it is the opposite of the first. -/
def computed (op : Option ArithOp) (a b : Value) : Act Value := do
  let answer := match op with
    | none => Arithmetic.negate a
    | some op => Arithmetic.binary op a b
  match answer with
  | .ok v => return v
  | .error fault =>
      Act.failPlainly (← Act.ofState (·.plainFaultText
        (State.arithmeticFault fault false a b .elsewhere .elsewhere)))

/-- An operation on strings that write numbers. The second operand may know better. -/
def arithmetic (name : String) (op : Option ArithOp) : Native := fun c _ args => do
  let a := Act.argument args 1
  let b := Act.argument args 2
  match a.asNumber?, b.asNumber? with
  | some x, some y => return [← computed op x y]
  | _, _ =>
      let other ← match b with
        | .str _ => pure Value.nil
        | b => Act.ofState (·.metaField b s!"__{name}".toUTF8)
      match other with
      | .nil => Act.fail s!"attempt to {name} a '{a.typeName}' with a '{b.typeName}'"
      | m => return [((← c.call m [a, b]).head?).getD .nil]

/-- The operations that strings have, by their names. -/
def operations : List (String × Option ArithOp) :=
  [("add", some .add), ("sub", some .sub), ("mul", some .mul), ("mod", some .mod),
   ("pow", some .pow), ("div", some .div), ("idiv", some .idiv), ("unm", none)]

/-- The names under which the machine finds the operations. -/
def operationName (name : String) : String := "string arithmetic " ++ name

/-- The functions and their names. -/
def functions : List (String × Native) :=
  [("byte", byte), ("char", char), ("dump", dump), ("find", find), ("format", format),
   ("gmatch", gmatch), ("gsub", gsub), ("len", len), ("lower", lower), ("match", matchOnce),
   ("rep", rep), ("reverse", reverse), ("sub", sub), ("upper", upper), ("pack", pack),
   ("packsize", packsize), ("unpack", unpack)]

end LuaShell.Lua.Library.Strings
