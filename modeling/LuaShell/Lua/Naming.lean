import LuaShell.Lua.State

/-!
# Names of values

A value that stands in a register can be given a name: that of the variable of the
register, or else of what the instruction fetched that wrote it last.  Only the code
is looked at, and what may have been skipped by a jump is not trusted.  A call is
named by the instruction that made it.
-/

namespace LuaShell.Lua

namespace Instr

/-- The register that an instruction writes, if it writes one. -/
def target? : Instr → Option Nat
  | .move a _ | .loadInt a _ | .loadFloat a _ | .loadConst a _ | .loadFarConst a
  | .loadFalse a | .loadFalseSkip a | .loadTrue a | .getUpvalue a _ | .getUpvalueField a _ _
  | .getTable a _ _ | .getItem a _ _ | .getField a _ _ | .newTable a _ _ _ | .method a _ _
  | .addInt a _ _ | .arithConst _ a _ _ | .shiftRightInt a _ _ | .shiftLeftInt a _ _
  | .arith _ a _ _ | .unary _ a _ | .concat a _ | .testSet a _ _ | .forLoop a _
  | .forPrepare a _ | .eachLoop a _ | .closure a _ | .vararg a _ | .varargPrepare a => some a
  | _ => none

/-- Whether an instruction changes a register. -/
def changes (i : Instr) (r : Nat) : Bool :=
  match i with
  | .loadNil a n => a ≤ r && r ≤ a + n
  | .eachCall a _ => a + 2 ≤ r
  | .call a _ _ | .tailCall a _ _ _ => a ≤ r
  | i => i.target? == some r

/-- Whether an instruction asks a metatable about the instruction before. -/
def isQuestion : Instr → Bool
  | .ask .. | .askInt .. | .askConst .. => true
  | _ => false

end Instr

namespace Proto

/-- A name for one that is not known. -/
def unknown : ByteArray := "?".toUTF8

/-- The instruction at a place. -/
def instrAt (p : Proto) (place : Nat) : Instr := (p.code[place]?).getD default

/-- The name of the variable that a register is at a place. -/
def localName? (p : Proto) (r place : Nat) : Option String :=
  go r p.locals.toList
where
  go : Nat → List LocalName → Option String
    | _, [] => none
    | r, n :: ns =>
        if place < n.start then none
        else if place < n.stop then
          match r with
          | 0 => some n.name
          | r + 1 => go r ns
        else go r ns

/-- The last instruction before a place that has changed a register, unless it may have been
skipped. -/
def lastChange? (p : Proto) (place r : Nat) : Option Nat :=
  let stop := if (p.instrAt place).isQuestion then place - 1 else place
  go stop r stop 0 0 none
where
  go (stop r : Nat) : Nat → Nat → Nat → Option Nat → Option Nat
    | 0, _, _, found => found
    | fuel + 1, i, target, found => match p.instrAt i with
      | .jump offset =>
          let goal := ((i : Int) + 1 + offset).toNat
          go stop r fuel (i + 1) (if goal ≤ stop && target < goal then goal else target) found
      | instr =>
          let found := if instr.changes r then (if i < target then none else some i) else found
          go stop r fuel (i + 1) target found

/-- The text of a constant, if it is a string. -/
def constantName? (p : Proto) (k : Nat) : Option ByteArray :=
  match p.constants[k]? with
  | some (.str bytes) => some bytes
  | _ => none

/-- The name of an upvalue. -/
def upvalueName (p : Proto) (i : Nat) : ByteArray :=
  match p.upvalues[i]? with
  | some ⟨some name, _, _, _⟩ => name.toUTF8
  | _ => unknown

/-- The name of a register that is a variable or a copy of one, and the instruction that wrote
the register if it had to be looked for. -/
def simpleName (p : Proto) : Nat → Nat → Nat → OperandName × Option Nat
  | 0, place, _ => (none, some place)
  | fuel + 1, place, r => match p.localName? r place with
    | some name => (some ("local", name.toUTF8), some place)
    | none => match p.lastChange? place r with
      | none => (none, none)
      | some i =>
          let constant (k : Nat) : OperandName × Option Nat :=
            ((p.constantName? k).map fun name => ("constant", name), some i)
          match p.instrAt i with
          | .move a b => if b < a then p.simpleName fuel i b else (none, some i)
          | .getUpvalue _ u => (some ("upvalue", p.upvalueName u), some i)
          | .loadConst _ k => constant k
          | .loadFarConst _ => match p.instrAt (i + 1) with
            | .extra k => constant k
            | _ => (none, some i)
          | _ => (none, some i)

/-- How many copies are looked through for a name. -/
def maxCopies : Nat := 256

/-- The name of a key in a register, which is one only if it is a constant. -/
def keyName (p : Proto) (place r : Nat) : ByteArray :=
  match (p.simpleName maxCopies place r).1 with
  | some ("constant", name) => name
  | _ => unknown

/-- Whether a name is that of the environment. -/
def isEnvironment (name : ByteArray) : Bool := name == "_ENV".toUTF8

/-- What a field of a table in a register is called. -/
def fieldKind (p : Proto) (place t : Nat) : String :=
  match (p.simpleName maxCopies place t).1 with
  | some (kind, name) =>
      if kind ≠ "constant" && isEnvironment name then "global" else "field"
  | none => "field"

/-- The name of a value in a register at a place. -/
def registerName (p : Proto) (place r : Nat) : OperandName :=
  match p.simpleName maxCopies place r with
  | (some name, _) => some name
  | (none, none) => none
  | (none, some i) => match p.instrAt i with
    | .getUpvalueField _ u k =>
        some (if isEnvironment (p.upvalueName u) then "global" else "field",
          (p.constantName? k).getD unknown)
    | .getTable _ t key => some (p.fieldKind i t, p.keyName i key)
    | .getItem .. => some ("field", "integer index".toUTF8)
    | .getField _ t k => some (p.fieldKind i t, (p.constantName? k).getD unknown)
    | .method _ _ key => some ("method", match key with
      | .constant k => (p.constantName? k).getD unknown
      | .register r => p.keyName i r)
    | _ => none

/-- How the instruction at a place names what it calls. -/
def calleeName (p : Proto) (place : Nat) : OperandName :=
  let event (e : Event) : OperandName := some ("metamethod", e.name.toUTF8)
  match p.instrAt place with
  | .call a _ _ | .tailCall a _ _ _ => p.registerName place a
  | .eachCall .. => some ("for iterator", "for iterator".toUTF8)
  | .method .. | .getUpvalueField .. | .getTable .. | .getItem .. | .getField .. => event .index
  | .setUpvalueField .. | .setTable .. | .setItem .. | .setField .. => event .newindex
  | .ask _ _ e | .askInt _ _ e _ | .askConst _ _ e _ => event e
  | .unary .neg _ _ => event .unm
  | .unary .bnot _ _ => event .bnot
  | .unary .len _ _ => event .len
  | .concat .. => event .concat
  | .compare .eq _ _ _ => event .eq
  | .compare .lt _ _ _ | .lessInt .. | .greaterInt .. => event .lt
  | .compare .le _ _ _ | .lessEqualInt .. | .greaterEqualInt .. => event .le
  | .close _ | .ret .. => event .close
  | _ => none

/-- The line of the instruction at a place; none if lines are not known. -/
def lineAt? (p : Proto) (place : Nat) : Option Nat := p.lines[place]?

/-! ## Names of chunks -/

/-- How many bytes the name of a chunk has at most where messages show it. -/
def maxShown : Nat := 59

/-- The name of a chunk in messages. A name after an equality sign is shown as it is and one
after an at sign is a file; anything else is the source itself, of which the beginning of
the first line is shown. -/
def shownName (source : ByteArray) : ByteArray :=
  let visible : List UInt8 := match source.data.toList with
    | 61 :: rest => rest.take maxShown
    | 64 :: rest =>
        if rest.length < maxShown then rest
        else Text.toBytes "..." ++ rest.drop (rest.length - 56)
    | bytes =>
        let line := (bytes.takeWhile (· ≠ 0)).takeWhile (· ≠ 10)
        let isLine := line.length = (bytes.takeWhile (· ≠ 0)).length
        let shown := if isLine && bytes.length < 45 then bytes
          else ((if isLine then bytes else line).take 45) ++ Text.toBytes "..."
        Text.toBytes "[string \"" ++ shown ++ Text.toBytes "\"]"
  ⟨(visible.takeWhile (· ≠ 0)).toArray⟩

/-- The name of the chunk that a function comes from. -/
def chunkName (p : Proto) : ByteArray :=
  match p.source with
  | some source => shownName source
  | none => unknown

end Proto

namespace LuaFrame

/-- The place of the instruction that is being carried out. -/
def current (f : LuaFrame) : Nat := f.place - 1

/-- The line that has been reached, if lines are known. -/
def line? (f : LuaFrame) : Option Nat := f.proto.lineAt? f.current

end LuaFrame

namespace State

/-- The place in a source that a call has reached, as the library begins messages with it;
nothing if lines are not known. -/
def position (f : LuaFrame) : ByteArray :=
  match f.line? with
  | some line => if line = 0 then .empty else f.proto.chunkName ++ s!":{line}: ".toUTF8
  | none => .empty

/-- The place in a source that an operation has reached, as its messages begin with it. -/
def operationPosition (f : LuaFrame) : ByteArray :=
  let line := match f.line? with
    | some line => toString line
    | none => if f.proto.source.isSome then "?" else "-1"
  f.proto.chunkName ++ s!":{line}: ".toUTF8

/-- The place of the caller so many levels up, if it is in code. -/
def whereAt (s : State) (level : Nat) : ByteArray :=
  match s.run.frames[level]? with
  | some (.lua f) => position f
  | _ => .empty

end State

end LuaShell.Lua
