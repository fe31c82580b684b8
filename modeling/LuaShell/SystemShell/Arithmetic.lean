import LuaShell.SystemShell.Token

/-!
# Arithmetic of system scripts

Expressions over whole numbers of sixty-four bits, in which names stand for the values
of variables and can be given new ones.
-/

namespace LuaShell.SystemShell.Arithmetic

/-- The variables as they are read and set. In a part that does not count they are not set. -/
structure Scope where
  lookup : String → String
  assigned : List (String × String)
  isIdle : Bool

/-- Give a name a value. -/
def Scope.assign (s : Scope) (name : String) (v : Int) : Scope :=
  if s.isIdle then s else { s with assigned := (name, toString v) :: s.assigned }

/-- A number of sixty-four bits. -/
def wrapped (n : Int) : Int := (Int64.ofInt n).toInt

/-- The value of a truth. -/
def ofBool (b : Bool) : Int := if b then 1 else 0

/-- What is wrong with an expression. -/
inductive Fault where
  | divisionByZero
  /-- Something else has to stand there. -/
  | expecting (what : String)
  /-- The value of a variable is no number. -/
  | noNumber (text : String)

/-- What reading yields: a value, the variables, and the rest. -/
abbrev Result := Except Fault (Int × Scope × List Char)

def skip (cs : List Char) : List Char :=
  cs.dropWhile fun c => c = ' ' || c = '\t' || c = '\n'

/-- The value of digits to a base. -/
def ofDigits (base : Nat) (cs : List Char) : Int :=
  cs.foldl (fun n c => base * n +
    (if c.isDigit then c.toNat - 48 else c.toLower.toNat - 87)) (0 : Nat)

/-- A number at the beginning of a text. -/
def number (cs : List Char) : Int × List Char :=
  match cs with
  | '0' :: x :: rest =>
      if x = 'x' || x = 'X' then
        let ds := rest.takeWhile fun c =>
          c.isDigit || ('a' ≤ c && c ≤ 'f') || ('A' ≤ c && c ≤ 'F')
        (ofDigits 16 ds, rest.drop ds.length)
      else
        let ds := (x :: rest).takeWhile fun c => '0' ≤ c && c ≤ '7'
        (ofDigits 8 ds, (x :: rest).drop ds.length)
  | cs =>
      let ds := cs.takeWhile Char.isDigit
      (ofDigits 10 ds, cs.drop ds.length)

/-- The number that a text writes, with a sign or without. -/
def signed? (cs : List Char) : Option Int :=
  let (negative, digits) := match cs with
    | '-' :: ds => (true, ds)
    | '+' :: ds => (false, ds)
    | ds => (false, ds)
  if !(digits.head?.any Char.isDigit) then none
  else match number digits with
    | (n, []) => some (if negative then -n else n)
    | _ => none

/-- The value of a name; one that is not set counts as zero. -/
def Scope.value (s : Scope) (name : String) : Except Fault Int :=
  let text := match s.assigned.lookup name with
    | some v => v
    | none => s.lookup name
  match skip text.toList with
  | [] => .ok 0
  | cs => match signed? (cs.reverse.dropWhile (· = ' ')).reverse with
    | some n => .ok n
    | none => .error (.noNumber text)

/-- The operators between two operands, by how tightly they bind. -/
def levels : List (List String) :=
  [["||"], ["&&"], ["|"], ["^"], ["&"], ["==", "!="], ["<=", ">=", "<", ">"], ["<<", ">>"],
   ["+", "-"], ["*", "/", "%"]]

/-- What an operator does. -/
def apply (op : String) (a b : Int) : Except Fault Int :=
  match op with
  | "||" => .ok (ofBool (a ≠ 0 || b ≠ 0))
  | "&&" => .ok (ofBool (a ≠ 0 && b ≠ 0))
  | "|" => .ok (Int64.ofInt a ||| Int64.ofInt b).toInt
  | "^" => .ok (Int64.ofInt a ^^^ Int64.ofInt b).toInt
  | "&" => .ok (Int64.ofInt a &&& Int64.ofInt b).toInt
  | "==" => .ok (ofBool (a = b))
  | "!=" => .ok (ofBool (a ≠ b))
  | "<=" => .ok (ofBool (a ≤ b))
  | ">=" => .ok (ofBool (b ≤ a))
  | "<" => .ok (ofBool (a < b))
  | ">" => .ok (ofBool (b < a))
  | "<<" => .ok (Int64.ofInt a <<< Int64.ofInt b).toInt
  | ">>" => .ok (Int64.ofInt a >>> Int64.ofInt b).toInt
  | "+" => .ok (wrapped (a + b))
  | "-" => .ok (wrapped (a - b))
  | "*" => .ok (wrapped (a * b))
  | "/" => if b = 0 then .error .divisionByZero else .ok (wrapped (Int.tdiv a b))
  | "%" => if b = 0 then .error .divisionByZero else .ok (wrapped (Int.tmod a b))
  | _ => .error (.expecting "EOF")

/-- Whether what follows an operator counts, after a first operand. -/
def isDecided (op : String) (a : Int) : Bool :=
  (op = "||" && a ≠ 0) || (op = "&&" && a = 0)

/-- The operator of a level at the beginning of a text; one that is part of a longer one does
not count. -/
def operator? (ops : List String) (cs : List Char) : Option (String × List Char) :=
  match Scan.leading? ops cs with
  | some (op, rest) =>
      let next := rest.head?
      let isLonger := match op with
        | "|" => next = some '|'
        | "&" => next = some '&'
        | "<" => next = some '<'
        | ">" => next = some '>'
        | _ => false
      let assigns := next = some '=' && !(["==", "!=", "<=", ">=", "<", ">"].contains op)
      if isLonger || assigns then none else some (op, rest)
  | none => none

/-- The operators that change a variable. -/
def assignments : List String :=
  ["=", "+=", "-=", "*=", "/=", "%=", "<<=", ">>=", "&=", "^=", "|="]

mutual

/-- An expression, perhaps one that sets a variable. -/
def expression : Nat → Scope → List Char → Result
  | 0, _, _ => .error (.expecting "primary")
  | n + 1, s, cs =>
      let cs := skip cs
      let (name, rest) := if cs.head?.any Scan.isNameStart then Scan.name cs else ("", cs)
      let rest := skip rest
      match if name = "" then none else Scan.leading? assignments rest with
      | some (op, after) =>
          if op = "=" && after.head? = some '=' then conditional n s cs
          else match expression n s after with
            | .error e => .error e
            | .ok (v, s, cs) =>
                let result : Except Fault Int := if op = "=" then .ok v
                  else (s.value name).bind fun before =>
                    apply (String.ofList op.toList.dropLast) before v
                result.map fun v => (v, s.assign name v, cs)
      | none => conditional n s cs

/-- A choice by a condition. -/
def conditional : Nat → Scope → List Char → Result
  | 0, _, _ => .error (.expecting "primary")
  | n + 1, s, cs => match binary n levels s cs with
    | .error e => .error e
    | .ok (c, s, cs) => match skip cs with
      | '?' :: cs =>
          let wasIdle := s.isIdle
          match expression n { s with isIdle := wasIdle || c = 0 } cs with
          | .error e => .error e
          | .ok (a, s, cs) => match skip cs with
            | ':' :: cs =>
                (conditional n { s with isIdle := wasIdle || c ≠ 0 } cs).map fun (b, s, cs) =>
                  (if c ≠ 0 then a else b, { s with isIdle := wasIdle }, cs)
            | _ => .error (.expecting "':'")
      | cs => .ok (c, s, cs)

/-- Operands of the next level with operators of one level between them. -/
def binary : Nat → List (List String) → Scope → List Char → Result
  | 0, _, _, _ => .error (.expecting "primary")
  | n + 1, [], s, cs => unary n s cs
  | n + 1, ops :: tighter, s, cs => match binary n tighter s cs with
    | .error e => .error e
    | .ok (a, s, cs) => more n ops tighter a s cs

/-- The rest of a row of operands. -/
def more : Nat → List String → List (List String) → Int → Scope → List Char → Result
  | 0, _, _, _, _, _ => .error (.expecting "primary")
  | n + 1, ops, tighter, a, s, cs => match operator? ops (skip cs) with
    | none => .ok (a, s, cs)
    | some (op, cs) =>
        let wasIdle := s.isIdle
        match binary n tighter { s with isIdle := wasIdle || isDecided op a } cs with
        | .error e => .error e
        | .ok (b, s, cs) =>
            let s := { s with isIdle := wasIdle }
            match apply op a b with
            | .error e => if wasIdle then more n ops tighter 0 s cs else .error e
            | .ok v => more n ops tighter v s cs

/-- An operand. -/
def unary : Nat → Scope → List Char → Result
  | 0, _, _ => .error (.expecting "primary")
  | n + 1, s, cs => match skip cs with
    | '(' :: cs => match expression n s cs with
      | .error e => .error e
      | .ok (v, s, cs) => match skip cs with
        | ')' :: cs => .ok (v, s, cs)
        | _ => .error (.expecting "')'")
    | '-' :: cs => (unary n s cs).map fun (v, s, cs) => (wrapped (-v), s, cs)
    | '+' :: cs => unary n s cs
    | '!' :: cs => (unary n s cs).map fun (v, s, cs) => (ofBool (v = 0), s, cs)
    | '~' :: cs => (unary n s cs).map fun (v, s, cs) => (-v - 1, s, cs)
    | c :: cs =>
        if c.isDigit then
          let (v, cs) := number (c :: cs)
          .ok (v, s, cs)
        else if Scan.isNameStart c then
          let (name, cs) := Scan.name (c :: cs)
          (s.value name).map fun v => (v, s, cs)
        else .error (.expecting "primary")
    | [] => .error (.expecting "primary")

end

/-- The value of an expression, and the variables that it sets, the last one first; nothing
counts as zero. -/
def evaluate (lookup : String → String) (cs : List Char) :
    Except Fault (Int × List (String × String)) :=
  if (skip cs).isEmpty then .ok (0, [])
  else match expression (20 * cs.length + 60) ⟨lookup, [], false⟩ cs with
    | .error e => .error e
    | .ok (v, s, rest) =>
        if (skip rest).isEmpty then .ok (v, s.assigned) else .error (.expecting "EOF")

end LuaShell.SystemShell.Arithmetic
