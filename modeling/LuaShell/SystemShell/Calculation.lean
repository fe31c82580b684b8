import LuaShell.Regex.Meaning
import LuaShell.SystemShell.Search

/-!
# Expressions as arguments

The program that computes what its arguments say: each argument is an operand or an
operator, and a colon matches a text with a pattern.
-/

namespace LuaShell.SystemShell.Calculation

/-- Why there is no answer. -/
inductive Fault where
  | noNumber
  | divisionByZero
  | missingAfter (text : String)
  | unexpected (text : String)
  | expecting (closing : String) (before : String)

/-- The wording of a fault. -/
def Fault.message : Fault → String
  | .noNumber => "non-integer argument"
  | .divisionByZero => "division by zero"
  | .missingAfter text => s!"syntax error: missing argument after '{text}'"
  | .unexpected text => s!"syntax error: unexpected argument '{text}'"
  | .expecting closing before => s!"syntax error: expecting '{closing}' after '{before}'"

/-- The operators between two operands, by how tightly they bind. -/
def levels : List (List String) :=
  [["|"], ["&"], ["<", "<=", "=", "==", "!=", ">=", ">"], ["+", "-"], ["*", "/", "%"], [":"]]

/-- Whether a text counts as nothing. -/
def isNull (text : String) : Bool :=
  text.isEmpty || (match text.toList with
    | '-' :: cs => !cs.isEmpty && cs.all (· = '0')
    | cs => cs.all (· = '0'))

/-- The answer of a truth. -/
def ofBool (b : Bool) : String := if b then "1" else "0"

/-- The two numbers that texts write. -/
def numbers (a b : String) (act : Int → Int → Except Fault Int) : Except Fault String :=
  match a.toInt?, b.toInt? with
  | some x, some y => (act x y).map toString
  | _, _ => .error .noNumber

/-- The parts of a basic pattern before, in and after its first group. -/
def grouped : List Char → List Char → Option (List Char × List Char × List Char)
  | _, [] => none
  | before, '\\' :: '(' :: cs =>
      let inner := body cs
      some (before.reverse, inner, cs.drop (inner.length + 2))
  | before, '\\' :: c :: cs => grouped (c :: '\\' :: before) cs
  | before, c :: cs => grouped (c :: before) cs
where
  /-- What stands before the end of a group. -/
  body : List Char → List Char
    | '\\' :: ')' :: _ | [] => []
    | '\\' :: c :: cs => '\\' :: c :: body cs
    | c :: cs => c :: body cs

/-- The ends of what a part of a basic pattern matches from places on, farther ones first. -/
def ends (text : Array Char) (pattern : List Char) (isFront : Bool) (places : List Nat) :
    List Nat :=
  let asRegex := Search.asRegex false (2 * pattern.length + 2) isFront pattern
  match Regex.Matcher.ofString (String.ofList asRegex) with
  | .ok m => (m.advance text places).mergeSort (fun a b => b ≤ a)
  | .error _ => []

/-- What a text has that matches a pattern from its beginning: the part in the group of the
pattern, or its length. -/
def matched (text pattern : String) : String :=
  let cs := text.toList.toArray
  let pattern := match pattern.toList with
    | '^' :: rest => rest
    | all => all
  match grouped [] pattern with
  | none => toString (((ends cs pattern true [0]).head?).getD 0)
  | some (before, inner, after) =>
      let found := (ends cs before true [0]).findSome? fun i =>
        (ends cs inner (before.isEmpty) [i]).findSome? fun j =>
          if (ends cs after false [j]).isEmpty then none else some (i, j)
      match found with
      | some (i, j) => String.ofList (cs.extract i j).toList
      | none => ""

/-- What an operator makes of two texts. -/
def apply (op a b : String) : Except Fault String :=
  let order := match a.toInt?, b.toInt? with
    | some x, some y => compare x y
    | _, _ => compare a b
  match op with
  | "|" => .ok (if isNull a then (if isNull b then "0" else b) else a)
  | "&" => .ok (if isNull a || isNull b then "0" else a)
  | "<" => .ok (ofBool (order = .lt))
  | "<=" => .ok (ofBool (order ≠ .gt))
  | "=" | "==" => .ok (ofBool (order = .eq))
  | "!=" => .ok (ofBool (order ≠ .eq))
  | ">=" => .ok (ofBool (order ≠ .lt))
  | ">" => .ok (ofBool (order = .gt))
  | "+" => numbers a b fun x y => .ok (x + y)
  | "-" => numbers a b fun x y => .ok (x - y)
  | "*" => numbers a b fun x y => .ok (x * y)
  | "/" => numbers a b fun x y => if y = 0 then .error .divisionByZero else .ok (Int.tdiv x y)
  | "%" => numbers a b fun x y => if y = 0 then .error .divisionByZero else .ok (Int.tmod x y)
  | _ => .ok (matched a b)

/-- What reading yields: an answer, the last argument that was taken, and the rest. -/
abbrev Result := Except Fault (String × String × List String)

mutual

/-- Operands with operators of one level between them, after an argument. -/
def binary : Nat → List (List String) → String → List String → Result
  | 0, _, before, _ => .error (.missingAfter before)
  | n + 1, [], before, args => primary n before args
  | n + 1, ops :: tighter, before, args => match binary n tighter before args with
    | .error e => .error e
    | .ok (a, last, rest) => more n ops tighter a last rest

/-- The rest of a row of operands. -/
def more : Nat → List String → List (List String) → String → String → List String → Result
  | 0, _, _, a, last, rest => .ok (a, last, rest)
  | n + 1, ops, tighter, a, last, rest => match rest with
    | op :: args =>
        if ops.contains op then match binary n tighter op args with
          | .error e => .error e
          | .ok (b, last, rest) => match apply op a b with
            | .error e => .error e
            | .ok v => more n ops tighter v last rest
        else .ok (a, last, rest)
    | [] => .ok (a, last, [])

/-- An operand. -/
def primary : Nat → String → List String → Result
  | 0, before, _ => .error (.missingAfter before)
  | n + 1, before, args => match args with
    | [] => .error (.missingAfter before)
    | "(" :: rest => match binary n levels "(" rest with
      | .error e => .error e
      | .ok (v, _, ")" :: rest) => .ok (v, ")", rest)
      | .ok (_, last, _) => .error (.expecting ")" last)
    | "length" :: a :: rest => .ok (toString a.length, a, rest)
    | "substr" :: a :: i :: k :: rest =>
        let first := (i.toNat?).getD 0
        let size := (k.toNat?).getD 0
        let part := if first = 0 then [] else (a.toList.drop (first - 1)).take size
        .ok (String.ofList part, k, rest)
    | "index" :: a :: set :: rest =>
        let place := (a.toList.findIdx? set.toList.contains).elim 0 (· + 1)
        .ok (toString place, set, rest)
    | "match" :: a :: pattern :: rest => .ok (matched a pattern, pattern, rest)
    | ")" :: _ => .error (.unexpected ")")
    | a :: rest => .ok (a, a, rest)

end

/-- The program. -/
def expr : Utility := fun args r =>
  let args := if args.head? = some "--" then args.drop 1 else args
  if args.isEmpty then Utility.misused r "expr" "missing operand" 2
  else match binary (20 * args.length + 20) levels "" args with
    | .error e => r.fail 2 s!"expr: {e.message}"
    | .ok (_, _, extra :: _) => r.fail 2 ("expr: " ++ (Fault.unexpected extra).message)
    | .ok (v, _, []) => (r.say (v ++ "\n")).done (if isNull v then 1 else 0)

end LuaShell.SystemShell.Calculation
