import LuaShell.SystemShell.Run

/-!
# Conditions of system scripts

What `test` says about texts, numbers and files.  The interpreter of scripts reads its
arguments from left to right by what each of them could be; the program of the same name
goes by how many there are.
-/

namespace LuaShell.SystemShell.Test

/-- Why arguments are no condition. -/
inductive Fault where
  | number (text : String)
  | unexpected (text : String)
  /-- Nothing follows an argument. -/
  | missing (after : String)
  | parenthesis
  | binaryExpected (text : String)
  | unaryExpected (text : String)

/-- The wording of the interpreter. -/
def Fault.message : Fault → String
  | .number text => s!"Illegal number: {text}"
  | .unexpected text => s!"{text}: unexpected operator"
  | .missing after => s!"{after}: argument expected"
  | .parenthesis => "closing paren expected"
  | .binaryExpected text | .unaryExpected text => s!"{text}: unexpected operator"

/-- The wording of the program. -/
def Fault.programMessage : Fault → String
  | .number text => s!"invalid integer '{text}'"
  | .unexpected text => s!"extra argument '{text}'"
  | .missing after => s!"missing argument after '{after}'"
  | .parenthesis => "')' expected"
  | .binaryExpected text => s!"'{text}': binary operator expected"
  | .unaryExpected text => s!"'{text}': unary operator expected"

/-- What a condition comes to. -/
abbrev Verdict := Except Fault Bool

/-- The whole number that a text writes. -/
def number? (text : String) : Except String Int :=
  match text.trimAscii.toString.toInt? with
  | some n => .ok n
  | none => match text.toList with
    | '+' :: ds => match (String.ofList ds).toNat? with
      | some n => .ok n
      | none => .error text
    | _ => .error text

/-- Compare two numbers. -/
def compareNumbers (a b : String) (holds : Int → Int → Bool) : Verdict :=
  match number? a, number? b with
  | .error e, _ | _, .error e => .error (.number e)
  | .ok x, .ok y => .ok (holds x y)

/-- The operators before one text. -/
def unaryOperators : List String :=
  ["-n", "-z", "-e", "-r", "-w", "-f", "-d", "-s", "-x", "-L", "-h", "-t", "-p", "-b", "-c",
   "-S", "-u", "-g", "-k", "-O", "-G"]

/-- Conditions on one text. -/
def unary (fs : FileSystem) (op arg : String) : Bool :=
  let p := Path.ofString arg
  let file? : Option File := match fs.stat p with
    | .ok n => fs.file? n
    | .error _ => none
  match op with
  | "-n" => !arg.isEmpty
  | "-z" => arg.isEmpty
  | "-e" | "-r" | "-w" | "-O" | "-G" => fs.pathExists p || p.bytes = FileSystem.sinkPath.bytes
  | "-c" => p.bytes = FileSystem.sinkPath.bytes
  | "-f" => file?.isSome
  | "-d" => fs.isDirectory p
  | "-s" => fs.isDirectory p || file?.any fun f => 0 < f.bytes.size
  | "-x" => fs.isDirectory p || file?.any fun f =>
      f.mode % 2 = 1 || f.mode / 8 % 2 = 1 || f.mode / 64 % 2 = 1
  | "-L" | "-h" => match fs.lstat p with
    | .ok n => n.isLink
    | .error _ => false
  | _ => false

/-- The operators between two texts. -/
def binaryOperators : List String :=
  ["=", "!=", "<", ">", "-eq", "-ne", "-lt", "-le", "-gt", "-ge", "-nt", "-ot", "-ef"]

/-- Conditions on two texts. -/
def binary (fs : FileSystem) (a op b : String) : Verdict :=
  match op with
  | "=" | "==" => .ok (a = b)
  | "!=" => .ok (a ≠ b)
  | "<" => .ok (a < b)
  | ">" => .ok (b < a)
  | "-eq" => compareNumbers a b fun x y => x = y
  | "-ne" => compareNumbers a b fun x y => x ≠ y
  | "-lt" => compareNumbers a b fun x y => x < y
  | "-le" => compareNumbers a b fun x y => x ≤ y
  | "-gt" => compareNumbers a b fun x y => y < x
  | "-ge" => compareNumbers a b fun x y => y ≤ x
  | "-ef" => match fs.find true (Path.ofString a), fs.find true (Path.ofString b) with
    | .ok l, .ok m => .ok (l = m)
    | _, _ => .ok false
  | _ => .ok false

/-! ## From left to right -/

/-- What the argument at the front is. -/
inductive Role where
  | finish
  | unary
  | binary
  | negation
  | opening
  | closing
  | conjunction
  | disjunction
  | operand
  deriving DecidableEq

/-- What the first of some arguments is. An operator before one text is none if the text is
missing, or if the next argument stands between two texts. -/
def role : List String → Role
  | [] => .finish
  | a :: rest =>
      if a = "!" then .negation
      else if a = "-a" then .conjunction
      else if a = "-o" then .disjunction
      else if a = ")" then .closing
      else if a = "(" then (if rest.isEmpty then .operand else .opening)
      else if binaryOperators.contains a then .binary
      else if unaryOperators.contains a then
        match rest with
        | [] => .operand
        | [_] => .unary
        | b :: _ => if binaryOperators.contains b then .operand else .unary
      else .operand

mutual

/-- Conditions of which one has to hold. Answers the arguments from the last one on that was
taken. -/
def anyOf (fs : FileSystem) : Nat → Role → List String → Except Fault (Bool × List String)
  | 0, _, args => .ok (false, args)
  | n + 1, r, args => match allOf fs n r args with
    | .error e => .error e
    | .ok (a, rest) =>
        if role (rest.drop 1) = .disjunction then
          (anyOf fs n (role (rest.drop 2)) (rest.drop 2)).map fun (b, rest) => (a || b, rest)
        else .ok (a, rest)

/-- Conditions that all have to hold. -/
def allOf (fs : FileSystem) : Nat → Role → List String → Except Fault (Bool × List String)
  | 0, _, args => .ok (false, args)
  | n + 1, r, args => match negatable fs n r args with
    | .error e => .error e
    | .ok (a, rest) =>
        if role (rest.drop 1) = .conjunction then
          (allOf fs n (role (rest.drop 2)) (rest.drop 2)).map fun (b, rest) => (a && b, rest)
        else .ok (a, rest)

/-- A condition, perhaps negated. -/
def negatable (fs : FileSystem) : Nat → Role → List String → Except Fault (Bool × List String)
  | 0, _, args => .ok (false, args)
  | n + 1, r, args =>
      if r = .negation then
        let next := role (args.drop 1)
        let args := if next = .finish then args else args.drop 1
        (negatable fs n next args).map fun (a, rest) => (!a, rest)
      else primary fs n r args

/-- One condition. -/
def primary (fs : FileSystem) : Nat → Role → List String → Except Fault (Bool × List String)
  | 0, _, args => .ok (false, args)
  | n + 1, r, args =>
      let first := (args.head?).getD ""
      match r with
      | .finish => .ok (false, args)
      | .opening =>
          if role (args.drop 1) = .closing then .ok (false, args.drop 1)
          else match anyOf fs n (role (args.drop 1)) (args.drop 1) with
            | .error e => .error e
            | .ok (a, rest) =>
                if role (rest.drop 1) = .closing then .ok (a, rest.drop 1) else .error .parenthesis
      | .unary => match args.drop 1 with
        | [] => .error (.missing first)
        | arg :: rest => .ok (unary fs first arg, arg :: rest)
      | _ =>
          if role (args.drop 1) = .binary then match args.drop 1 with
            | op :: b :: rest => (binary fs first op b).map fun a => (a, b :: rest)
            | op :: [] => .error (.missing op)
            | [] => .ok (!first.isEmpty, args)
          else .ok (!first.isEmpty, args)

end

/-- What arguments say from left to right, where an operator between two texts comes first if
there are three, and parentheses or a negation after that. -/
def judge (fs : FileSystem) : Nat → Bool → List String → Verdict
  | 0, _, _ => .ok false
  | n + 1, isNegated, args =>
      let answer (r : Role) (args : List String) : Verdict :=
        match anyOf fs (4 * args.length + 8) r args with
        | .error e => .error e
        | .ok (_, last :: _ :: _) => .error (.unexpected last)
        | .ok (a, _) => .ok (a != isNegated)
      let isCompared := args.length = 3 && binaryOperators.contains ((args[1]?).getD "")
      if args.isEmpty then .ok isNegated
      else if isCompared then answer .operand args
      else if args.length = 3 || args.length = 4 then
        if args.head? = some "(" && args.getLast? = some ")" then
          let inner := (args.drop 1).dropLast
          answer (role inner) inner
        else if args.head? = some "!" then judge fs n (!isNegated) (args.drop 1)
        else answer (role args) args
      else answer (role args) args

/-! ## By number -/

/-- Whether an argument is a hyphen and one more character. -/
def isSwitch (a : String) : Bool := a.startsWith "-" && a.length = 2

/-- The operators between two texts that the program knows. -/
def programOperators : List String := "==" :: binaryOperators

/-- A condition on one text. -/
def switched (fs : FileSystem) (op arg : String) : Verdict :=
  if op ∈ unaryOperators then .ok (unary fs op arg) else .error (.unaryExpected op)

mutual

/-- Conditions of which one has to hold, and what is left. -/
def anyTerm (fs : FileSystem) : Nat → List String → Except Fault (Bool × List String)
  | 0, args => .ok (false, args)
  | n + 1, args => match allTerms fs n args with
    | .error e => .error e
    | .ok (a, "-o" :: rest) => (anyTerm fs n rest).map fun (b, rest) => (a || b, rest)
    | .ok r => .ok r

/-- Conditions that all have to hold. -/
def allTerms (fs : FileSystem) : Nat → List String → Except Fault (Bool × List String)
  | 0, args => .ok (false, args)
  | n + 1, args => match term fs n "" args with
    | .error e => .error e
    | .ok (a, "-a" :: rest) => (allTerms fs n rest).map fun (b, rest) => (a && b, rest)
    | .ok r => .ok r

/-- One condition, after an argument. -/
def term (fs : FileSystem) : Nat → String → List String → Except Fault (Bool × List String)
  | 0, _, args => .ok (false, args)
  | _ + 1, before, [] => .error (.missing before)
  | n + 1, _, a :: rest =>
      if a = "!" then (term fs n a rest).map fun (v, rest) => (!v, rest)
      else if a = "(" then match anyTerm fs n rest with
        | .error e => .error e
        | .ok (v, ")" :: rest) => .ok (v, rest)
        | .ok _ => .error .parenthesis
      else match rest with
        | op :: b :: more =>
            if programOperators.contains op then (binary fs a op b).map fun v => (v, more)
            else if isSwitch a then (switched fs a op).map fun v => (v, b :: more)
            else .ok (!a.isEmpty, rest)
        | [arg] =>
            if isSwitch a then (switched fs a arg).map fun v => (v, [])
            else .ok (!a.isEmpty, rest)
        | [] => if isSwitch a then .error (.missing a) else .ok (!a.isEmpty, [])

end

/-- What arguments say by their number; without a rule for the number, one condition after the
other. -/
def judgeByNumber (fs : FileSystem) (args : List String) : Verdict :=
  let pair (a b : String) : Verdict :=
    if a = "!" then .ok b.isEmpty
    else if isSwitch a then switched fs a b
    else .error (.missing b)
  let triple (a op b : String) : Option Verdict :=
    if programOperators.contains op then some (binary fs a op b)
    else if a = "!" then some ((pair op b).map (!·))
    else if a = "(" && b = ")" then some (.ok (!op.isEmpty))
    else if op = "-a" || op = "-o" then none
    else some (.error (.binaryExpected op))
  let all : Verdict := match anyTerm fs (4 * args.length + 8) args with
    | .error e => .error e
    | .ok (a, []) => .ok a
    | .ok (_, extra :: _) => .error (.unexpected extra)
  match args with
  | [] => .ok false
  | [a] => .ok (!a.isEmpty)
  | [a, b] => pair a b
  | [a, op, b] => (triple a op b).getD all
  | ["!", a, op, b] => ((triple a op b).map fun v => v.map (!·)).getD all
  | ["(", a, b, ")"] => pair a b
  | _ => all

end LuaShell.SystemShell.Test
