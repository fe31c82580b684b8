import LuaShell.Number.Notation
import LuaShell.Number.Read
import LuaShell.SystemShell.Run

/-!
# Formatted output of system scripts

What `echo` and `printf` make of their arguments.
-/

namespace LuaShell.SystemShell.Printed

/-- What is written, and whether the output ends there. -/
structure Output where
  bytes : List UInt8
  isOver : Bool

/-- The value of octal digits. -/
def octal (cs : List Char) : Nat :=
  cs.foldl (fun n c => 8 * n + (c.toNat - 48)) 0

def isOctal (c : Char) : Bool := '0' ≤ c && c ≤ '7'

/-- The byte that a letter after a backslash stands for. -/
def escape? (c : Char) : Option UInt8 :=
  match c with
  | 'a' => some 7
  | 'b' => some 8
  | 'f' => some 12
  | 'n' => some 10
  | 'r' => some 13
  | 't' => some 9
  | 'v' => some 11
  | '\\' => some 92
  | _ => none

/-- Text with its escapes carried out. `zeroFirst` says that numbers begin with a zero. -/
def escaped (zeroFirst : Bool) : Nat → List Char → Output
  | 0, _ | _, [] => ⟨[], false⟩
  | n + 1, '\\' :: c :: cs =>
      let put (bytes : List UInt8) (cs : List Char) : Output :=
        let r := escaped zeroFirst n cs
        ⟨bytes ++ r.bytes, r.isOver⟩
      match escape? c with
      | some b => put [b] cs
      | none =>
          if c = 'c' then ⟨[], true⟩
          else if zeroFirst && c = '0' then
            let ds := (cs.take 3).takeWhile isOctal
            put [UInt8.ofNat (octal ds)] (cs.drop ds.length)
          else if !zeroFirst && isOctal c then
            let ds := ((c :: cs).take 3).takeWhile isOctal
            put [UInt8.ofNat (octal ds)] ((c :: cs).drop ds.length)
          else put (Text.toBytes ("\\".push c)) cs
  | n + 1, c :: cs =>
      let r := escaped zeroFirst n cs
      ⟨Text.toBytes (String.singleton c) ++ r.bytes, r.isOver⟩

/-- A conversion: flags, width, precision, and the letter. -/
structure Conversion where
  flags : List Char
  width : Nat
  precision : Option Nat
  letter : Char

/-- A text in a field of some width. -/
def padded (c : Conversion) (text : String) : String :=
  let gap := c.width - text.length
  if c.flags.contains '-' then text ++ "".pushn ' ' gap else "".pushn ' ' gap ++ text

/-- A number in a field of some width: its sign and digits. -/
def paddedNumber (c : Conversion) (sign digits : String) : String :=
  let digits := match c.precision with
    | some p => "".pushn '0' (p - digits.length) ++ digits
    | none => digits
  let gap := c.width - sign.length - digits.length
  if c.flags.contains '0' && !c.flags.contains '-' && c.precision.isNone then
    sign ++ "".pushn '0' gap ++ digits
  else padded c (sign ++ digits)

/-- The number that an argument writes, and whether all of it does. -/
def number (text : String) : Int × Bool :=
  match text.toList with
  | [] => (0, true)
  | '\'' :: c :: _ | '"' :: c :: _ => (c.toNat, true)
  | cs =>
      let (negative, cs) := match cs with
        | '-' :: rest => (true, rest)
        | '+' :: rest => (false, rest)
        | cs => (false, cs)
      let digits := cs.takeWhile Char.isDigit
      let isHex : Bool := match cs with
        | '0' :: 'x' :: _ | '0' :: 'X' :: _ => true
        | _ => false
      let hex := (cs.drop 2).takeWhile fun c => c.isDigit || ('a' ≤ c.toLower && c.toLower ≤ 'f')
      let value : Nat := if isHex then hex.foldl (fun n c =>
          16 * n + (if c.isDigit then c.toNat - 48 else c.toLower.toNat - 87)) 0
        else if digits.head? = some '0' then octal (digits.takeWhile isOctal)
        else digits.foldl (fun n c => 10 * n + (c.toNat - 48)) 0
      let isWhole := if isHex then hex.length + 2 = cs.length
        else digits.length = cs.length && !digits.isEmpty
      (if negative then -value else value, isWhole)

/-- The number of an unsigned conversion. -/
def unsigned (n : Int) : Nat := (n % 18446744073709551616).toNat

/-- What an argument becomes, and whether it was fit for that. -/
def convert (c : Conversion) (arg : String) : List UInt8 × Bool × Bool :=
  let plain (s : String) (fit : Bool) : List UInt8 × Bool × Bool :=
    (Text.toBytes s, fit, false)
  let (n, isWhole) := number arg
  let sign := if n < 0 then "-" else if c.flags.contains '+' then "+"
    else if c.flags.contains ' ' then " " else ""
  match c.letter with
  | 's' =>
      let s := match c.precision with
        | some p => String.ofList (arg.toList.take p)
        | none => arg
      plain (padded c s) true
  | 'b' =>
      let r := escaped true (arg.length + 1) arg.toList
      (r.bytes, true, r.isOver)
  | 'c' => plain (padded c (String.ofList (arg.toList.take 1))) true
  | 'd' | 'i' => plain (paddedNumber c sign (toString n.natAbs)) isWhole
  | 'u' => plain (paddedNumber c "" (toString (unsigned n))) isWhole
  | 'o' => plain (paddedNumber c "" (String.ofList (Nat.toDigits 8 (unsigned n)))) isWhole
  | 'x' =>
      let digits := String.ofList (Nat.toDigits 16 (unsigned n))
      plain (paddedNumber c (if c.flags.contains '#' && n ≠ 0 then "0x" else "") digits) isWhole
  | 'X' =>
      let digits := (String.ofList (Nat.toDigits 16 (unsigned n))).toUpper
      plain (paddedNumber c (if c.flags.contains '#' && n ≠ 0 then "0X" else "") digits) isWhole
  | _ => match Read.float? arg.toList with
    | some x => match Binary64.ofFloat x with
      | .finite negative m q =>
          let p := c.precision.getD 6
          let sign := if negative then "-" else if c.flags.contains '+' then "+" else ""
          let digits := match c.letter with
            | 'e' | 'E' => Notation.scientific p false m q
            | 'g' | 'G' => Notation.general p false m q
            | _ => Notation.fixed p false m q
          plain (paddedNumber { c with precision := none } sign digits) true
      | _ => plain arg true
    | none => plain "0" arg.isEmpty

/-- Read a conversion after its percent sign. A star takes its number from the arguments. -/
def conversion? (cs : List Char) (args : List String) :
    Option (Conversion × List Char × List String) :=
  let flags := cs.takeWhile "-+ #0".toList.contains
  let cs := cs.drop flags.length
  let takeNumber (cs : List Char) (args : List String) : Nat × List Char × List String :=
    match cs with
    | '*' :: rest => ((number ((args.head?).getD "")).1.natAbs, rest, args.drop 1)
    | cs =>
        let ds := cs.takeWhile Char.isDigit
        (ds.foldl (fun n c => 10 * n + (c.toNat - 48)) 0, cs.drop ds.length, args)
  let (width, cs, args) := takeNumber cs args
  let (precision, cs, args) : Option Nat × List Char × List String := match cs with
    | '.' :: rest =>
        let (p, cs, args) := takeNumber rest args
        (some p, cs, args)
    | cs => (none, cs, args)
  match cs with
  | letter :: rest =>
      if "sbcdiuoxXeEfFgG".toList.contains letter then
        some (⟨flags, width, precision, letter⟩, rest, args)
      else none
  | [] => none

/-- What one pass over a format writes, what is wrong with the arguments, which of them are
left, and whether the output ends. -/
structure Pass where
  bytes : List UInt8
  faults : List String
  left : List String
  isOver : Bool
  /-- A conversion that is none. -/
  bad : Option (List Char)

/-- One pass over a format. -/
def pass : Nat → List Char → List String → Pass
  | 0, _, args | _, [], args => ⟨[], [], args, false, none⟩
  | n + 1, '%' :: '%' :: cs, args =>
      let r := pass n cs args
      { r with bytes := 37 :: r.bytes }
  | n + 1, '%' :: cs, args => match conversion? cs args with
    | none => ⟨[], [], args, true, some cs⟩
    | some (c, cs, args) =>
        let arg := (args.head?).getD ""
        let (bytes, fit, isOver) := convert c arg
        if isOver then ⟨bytes, [], args.drop 1, true, none⟩
        else
          let r := pass n cs (args.drop 1)
          { r with
            bytes := bytes ++ r.bytes
            faults := (if fit then [] else [arg]) ++ r.faults }
  | n + 1, '\\' :: c :: cs, args =>
      let digits := if isOctal c then ((c :: cs).take 3).takeWhile isOctal else []
      let size := if digits.isEmpty then 1 else digits.length
      let one := escaped false (size + 2) ('\\' :: (c :: cs).take size)
      if one.isOver then ⟨one.bytes, [], args, true, none⟩
      else
        let r := pass n ((c :: cs).drop size) args
        { r with bytes := one.bytes ++ r.bytes }
  | n + 1, c :: cs, args =>
      let r := pass n cs args
      { r with bytes := Text.toBytes (String.singleton c) ++ r.bytes }

/-- Passes over a format until there are no arguments left. -/
def passes (format : List Char) : Nat → List String → Pass
  | 0, args => ⟨[], [], args, false, none⟩
  | n + 1, args =>
      let r := pass (format.length + 1) format args
      if r.isOver || r.left.isEmpty || r.left.length = args.length then r
      else
        let more := passes format n r.left
        { more with bytes := r.bytes ++ more.bytes, faults := r.faults ++ more.faults }

/-- What `echo` of scripts writes. -/
def echoText (args : List String) : List UInt8 :=
  let (newline, args) := match args with
    | "-n" :: rest => (false, rest)
    | args => (true, args)
  let cs := (" ".intercalate args).toList
  let r := escaped true (cs.length + 1) cs
  r.bytes ++ (if newline && !r.isOver then [10] else [])

end LuaShell.SystemShell.Printed
