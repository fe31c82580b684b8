import LuaShell.Lua.Naming
import LuaShell.Lua.Packing
import LuaShell.Lua.Word

/-!
# Binary chunks

A function as bytes, and back.  The bytes begin with a mark that says what they are
and how numbers are kept; the function follows, with its code, its constants, the
functions inside it, and what is known about its source, which can be left out.
Counts take seven bits of each byte, the highest first, and the last byte has its
eighth bit set.
-/

namespace LuaShell.Lua

namespace Binary

/-! ## What chunks begin with -/

/-- The byte that says that a chunk is no text. -/
def mark : UInt8 := 27

/-- What follows the first byte. -/
def signature : List UInt8 := Text.toBytes "Lua"

/-- The version, as its digits, and the format. -/
def version : UInt8 := 0x54

def format : UInt8 := 0

/-- Bytes that would not survive a change of line ends. -/
def canary : List UInt8 := [0x19, 0x93, 13, 10, 0x1A, 10]

/-- The sizes of words, of integers and of doubles. -/
def wordSize : UInt8 := 4

def intSize : UInt8 := 8

def floatSize : UInt8 := 8

/-- An integer and a double that show how numbers are kept. -/
def sampleInt : Int := 0x5678

def sampleFloat : Float := 370.5

/-! ## Kinds of constants -/

def nilKind : UInt8 := 0

def falseKind : UInt8 := 1

def trueKind : UInt8 := 0x11

def intKind : UInt8 := 3

def floatKind : UInt8 := 0x13

def shortStringKind : UInt8 := 4

def longStringKind : UInt8 := 0x14

/-- How long short strings are at most. -/
def maxShortString : Nat := 40

/-! ## Writing -/

/-- The digits of a number to the base of seven bits. -/
def septets (n : Nat) : List UInt8 :=
  if n < 128 then [UInt8.ofNat n] else septets (n / 128) ++ [UInt8.ofNat (n % 128)]
termination_by n

/-- Set the eighth bit of the last byte. -/
def closed : List UInt8 → List UInt8
  | [] => []
  | [b] => [b ||| 0x80]
  | b :: bs => b :: closed bs

/-- A count. -/
def countBytes (n : Nat) : List UInt8 := closed (septets n)

/-- A string after its length and one; zero stands for none. -/
def stringBytes : Option (List UInt8) → List UInt8
  | none => countBytes 0
  | some bytes => countBytes (bytes.length + 1) ++ bytes

def intBytes (n : Int) : List UInt8 := PackMode.start.packInt 8 n

def floatBytes (x : Float) : List UInt8 := PackMode.start.packFloat 8 x

/-- Several things after their count. -/
def listBytes {α : Type} (f : α → List UInt8) (xs : List α) : List UInt8 :=
  countBytes xs.length ++ xs.flatMap f

/-- A constant. -/
def constantBytes : Value → List UInt8
  | .bool false => [falseKind]
  | .bool true => [trueKind]
  | .int n => intKind :: intBytes n.toInt
  | .num x => floatKind :: floatBytes x
  | .str bytes =>
      let kind := if bytes.size ≤ maxShortString then shortStringKind else longStringKind
      kind :: stringBytes (some bytes.data.toList)
  | _ => [nilKind]

/-- Where an upvalue is found. -/
def upvalueBytes (u : UpvalueInfo) : List UInt8 :=
  [if u.inStack then 1 else 0, UInt8.ofNat u.index, UInt8.ofNat u.role.number]

/-- How far apart lines are at most that are kept by their difference. -/
def maxLineStep : Int := 127

/-- After so many differences a line is kept as it is. -/
def maxLineRun : Nat := 128

/-- What stands instead of a difference for a line that is kept as it is. -/
def wholeLine : UInt8 := 128

/-- Lines as differences, and those that are kept as they are, with their places. -/
def lineSteps : Nat → Nat → Nat → List Nat → List UInt8 × List (Nat × Nat)
  | _, _, _, [] => ([], [])
  | place, before, run, line :: lines =>
      let step := (line : Int) - before
      if step.natAbs ≤ maxLineStep.toNat && run < maxLineRun then
        let (steps, whole) := lineSteps (place + 1) line (run + 1) lines
        (UInt8.ofNat (step % 256).toNat :: steps, whole)
      else
        let (steps, whole) := lineSteps (place + 1) line 1 lines
        (wholeLine :: steps, (place, line) :: whole)

/-- What is known about the source of a function. -/
def sourceBytes (p : Proto) : List UInt8 :=
  let (steps, whole) := lineSteps 0 p.line 0 p.lines.toList
  countBytes steps.length ++ steps ++
    listBytes (fun (place, line) => countBytes place ++ countBytes line) whole ++
    listBytes (fun n : LocalName =>
      stringBytes (some (Text.toBytes n.name)) ++ countBytes n.start ++ countBytes n.stop)
      p.locals.toList ++
    listBytes (fun u : UpvalueInfo => stringBytes (u.name.map Text.toBytes)) p.upvalues.toList

/-- A function inside one of a chunk. The name of the chunk is left out if it is that of the
function around it; with `isStripped` nothing is said about the source. -/
def functionBytes (isStripped : Bool) (outer : Option ByteArray) (p : Proto) : List UInt8 :=
  let name := if isStripped || p.source == outer then none else p.source.map (·.data.toList)
  stringBytes name ++ countBytes p.line ++ countBytes p.lastLine ++
    [UInt8.ofNat p.parameters, if p.isVararg then 1 else 0, UInt8.ofNat p.registers] ++
    listBytes (fun i : Instr => PackMode.lowBytes 4 i.word) p.code.toList ++
    listBytes constantBytes p.constants.toList ++
    listBytes upvalueBytes p.upvalues.toList ++
    countBytes p.protos.size ++
    (p.protos.attach.map fun ⟨q, _⟩ => functionBytes isStripped p.source q).toList.flatten ++
    (if isStripped then [0, 0, 0, 0].flatMap countBytes else sourceBytes p)
termination_by sizeOf p
decreasing_by
  have h := Array.sizeOf_lt_of_mem ‹q ∈ p.protos›
  cases p
  simp_all
  omega

/-- How every chunk begins. -/
def header : List UInt8 :=
  mark :: signature ++ [version, format] ++ canary ++ [wordSize, intSize, floatSize] ++
    intBytes sampleInt ++ floatBytes sampleFloat

/-- A function as a chunk. -/
def ofProto (isStripped : Bool) (p : Proto) : ByteArray :=
  ⟨(header ++ UInt8.ofNat p.upvalues.size :: functionBytes isStripped none p).toArray⟩

/-! ## Reading -/

/-- Why bytes are no chunk. -/
inductive Fault where
  | noChunk
  | version
  | format
  | corrupted
  | size (what : String)
  | intFormat
  | floatFormat
  | truncated
  | overflow
  | constantString

/-- The wording of a fault. -/
def Fault.message : Fault → String
  | .noChunk => "not a binary chunk"
  | .version => "version mismatch"
  | .format => "format mismatch"
  | .corrupted => "corrupted chunk"
  | .size what => s!"{what} size mismatch"
  | .intFormat => "integer format mismatch"
  | .floatFormat => "float format mismatch"
  | .truncated => "truncated chunk"
  | .overflow => "integer overflow"
  | .constantString => "bad format for constant string"

/-- Reading bytes from the front. -/
abbrev Read := StateT (List UInt8) (Except Fault)

namespace Read

/-- The next byte. -/
def byte : Read UInt8 := do
  match ← get with
  | [] => throw .truncated
  | b :: rest =>
      set rest
      return b

/-- The next bytes. -/
def block (n : Nat) : Read (List UInt8) := do
  let bytes ← get
  if bytes.length < n then throw .truncated
  set (bytes.drop n)
  return bytes.take n

/-- See to it that certain bytes are next. -/
def expect (bytes : List UInt8) (fault : Fault) : Read Unit := do
  if (← block bytes.length) ≠ bytes then throw fault

/-- The digits of a number that has to stay below a limit. -/
def septets (limit : Nat) : Nat → List UInt8 → Except Fault (Nat × List UInt8)
  | _, [] => throw .truncated
  | n, b :: rest =>
      if limit / 128 ≤ n then throw .overflow
      else
        let n := 128 * n + (b &&& 0x7F).toNat
        if b &&& 0x80 = 0 then septets limit n rest else pure (n, rest)

/-- The greatest count of things, and the greatest length. -/
def maxCount : Nat := 2147483647

def maxLength : Nat := 18446744073709551615

/-- A count. -/
def count (limit : Nat) : Read Nat := do
  let (n, rest) ← septets limit 0 (← get)
  set rest
  return n

/-- So many things. -/
def repeated {α : Type} (r : Read α) : Nat → Array α → Read (Array α)
  | 0, xs => return xs
  | n + 1, xs => do repeated r n (xs.push (← r))

/-- Several things after their count. -/
def list {α : Type} (r : Read α) : Read (Array α) := do
  repeated r (← count maxCount) #[]

/-- A string, if there is one. -/
def string? : Read (Option ByteArray) := do
  match ← count maxLength with
  | 0 => return none
  | n + 1 => return some ⟨(← block n).toArray⟩

/-- An integer or a double. -/
def int : Read Int64 := do
  return Int64.ofInt (PackMode.natOfBytes (← block 8))

def float : Read Float := do
  return PackMode.start.unpackFloat (← block 8)

/-- A constant. -/
def constant : Read Value := do
  let kind ← byte
  if kind = falseKind then return .bool false
  else if kind = trueKind then return .bool true
  else if kind = intKind then return .int (← int)
  else if kind = floatKind then return .num (← float)
  else if kind = shortStringKind || kind = longStringKind then
    match ← string? with
    | some bytes => return .str bytes
    | none => throw .constantString
  else return .nil

/-- Where an upvalue is found. -/
def upvalue : Read UpvalueInfo := do
  let inStack ← byte
  let index ← byte
  let role ← byte
  return ⟨none, inStack ≠ 0, index.toNat, (VarRole.ofNumber? role.toNat).getD .plain⟩

/-- A variable and its scope. -/
def localName : Read LocalName := do
  let name := ((← string?).map Text.ofBytesLossy).getD ""
  let start ← count maxCount
  return ⟨name, start, ← count maxCount⟩

/-- A place and its line. -/
def wholeLine : Read (Nat × Nat) := do
  let place ← count maxCount
  return (place, ← count maxCount)

/-- The lines of differences. -/
def linesOf (whole : List (Nat × Nat)) : Nat → Nat → List UInt8 → List Nat
  | _, _, [] => []
  | place, before, step :: steps =>
      let line := if step = Binary.wholeLine then (whole.lookup place).getD before
        else ((before : Int) + step.toInt8.toInt).toNat
      line :: linesOf whole (place + 1) line steps

/-- Give upvalues their names. -/
def named (names : Array (Option ByteArray)) (us : Array UpvalueInfo) : Array UpvalueInfo :=
  us.mapIdx fun i u => { u with name := ((names[i]?).bind id).map Text.ofBytesLossy }

/-- A function, with at most so many in each other. -/
def function : Nat → Option ByteArray → Read Proto
  | 0, _ => throw .truncated
  | depth + 1, outer => do
      let name ← string?
      let source := name <|> outer
      let line ← count maxCount
      let lastLine ← count maxCount
      let parameters ← byte
      let isVararg ← byte
      let registers ← byte
      let words ← list (return PackMode.natOfBytes (← block 4))
      let constants ← list constant
      let upvalues ← list upvalue
      let protos ← list (function depth source)
      let steps ← list byte
      let whole ← list wholeLine
      let locals ← list localName
      let nameCount ← count maxCount
      let names ← repeated string? (if nameCount = 0 then 0 else upvalues.size) #[]
      return {
        parameters := parameters.toNat
        isVararg := isVararg ≠ 0
        registers := registers.toNat
        code := (Instr.ofWords words.toList).toArray
        constants := constants
        upvalues := named names upvalues
        protos := protos
        lines := (linesOf whole.toList 0 line steps.toList).toArray
        locals := locals
        source := source
        line := line
        lastLine := lastLine }

/-- What every chunk begins with. -/
def header : Read Unit := do
  expect [mark] .noChunk
  expect signature .noChunk
  expect [version] .version
  expect [format] .format
  expect canary .corrupted
  expect [wordSize] (.size "Instruction")
  expect [intSize] (.size "lua_Integer")
  expect [floatSize] (.size "lua_Number")
  expect (intBytes sampleInt) .intFormat
  expect (floatBytes sampleFloat) .floatFormat

end Read

/-- The function of a chunk. -/
def toProto (chunk : ByteArray) : Except Fault Proto :=
  let bytes := chunk.data.toList
  let read : Read Proto := do
    Read.header
    let _ ← Read.byte
    Read.function bytes.length none
  (·.1) <$> read bytes

/-- How a chunk is called in messages about its bytes. -/
def shownName (name : ByteArray) : ByteArray :=
  match name.data.toList with
  | 64 :: _ | 61 :: _ => Value.untilZero (name.extract 1 name.size)
  | 27 :: _ => "binary string".toUTF8
  | _ => Value.untilZero name

end Binary

end LuaShell.Lua
