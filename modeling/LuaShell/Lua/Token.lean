import LuaShell.Lua.Numeral

/-!
# Tokens of Lua

A source is cut into names, reserved words, operators, numerals and strings.  Each
token knows the text by which a message refers to it.  A line ends with a line feed,
a return, or one of each.
-/

namespace LuaShell.Lua

/-- A token. -/
inductive Token where
  | eof
  /-- A reserved word or an operator. -/
  | symbol (text : String)
  /-- A byte that begins no other token. -/
  | byte (b : UInt8)
  | name (text : String)
  /-- A string, and how messages show it. -/
  | string (bytes raw : List UInt8)
  | int (n : Int64) (raw : List UInt8)
  | num (x : Float) (raw : List UInt8)

instance : Inhabited Token := ⟨.eof⟩

/-- What is still to be read, and the line in which it begins. -/
structure Source where
  rest : List UInt8
  line : Nat

/-- Why a source could not be read. -/
inductive SyntaxFault where
  /-- A message in bytes, and the line. -/
  | atLine (message : List UInt8) (line : Nat)
  /-- The source is nested too deeply. -/
  | tooDeep

/-- What reading yields. -/
abbrev Scan (α : Type) := Except SyntaxFault (α × Source)

namespace Token

/-- The words that are no names. -/
def reserved : List String :=
  ["and", "break", "do", "else", "elseif", "end", "false", "for", "function", "goto", "if", "in",
   "local", "nil", "not", "or", "repeat", "return", "then", "true", "until", "while"]

/-- Between single quotes, as messages show it; a zero byte ends it. -/
def shown (raw : List UInt8) : List UInt8 :=
  39 :: raw.takeWhile (· ≠ 0) ++ [39]

/-- The text of a byte that begins no other token. -/
def byteText (b : UInt8) : List UInt8 :=
  if 32 ≤ b && b < 127 then shown [b] else Text.toBytes s!"'<\\{b.toNat}>'"

/-- How a message refers to a token; not at all to a zero byte. -/
def near : Token → List UInt8
  | .eof => Text.toBytes " near <eof>"
  | .symbol text => Text.toBytes " near " ++ shown (Text.toBytes text)
  | .byte b => if b = 0 then [] else Text.toBytes " near " ++ byteText b
  | .name text => Text.toBytes " near " ++ shown (Text.toBytes text)
  | .string _ raw => Text.toBytes " near " ++ shown raw
  | .int _ raw => Text.toBytes " near " ++ shown raw
  | .num _ raw => Text.toBytes " near " ++ shown raw

end Token

namespace Source

/-- A fault at the place reached, with the token it is about. -/
def fault {α : Type} (message : String) (near : List UInt8) (line : Nat) :
    Except SyntaxFault α :=
  .error (.atLine (Text.toBytes message ++ near) line)

/-- A fault about the text read so far. -/
def faultNear {α : Type} (message : String) (raw : List UInt8) (line : Nat) :
    Except SyntaxFault α :=
  fault message (Text.toBytes " near " ++ Token.shown raw) line

/-- A fault at the end of the source. -/
def faultAtEnd {α : Type} (message : String) (line : Nat) : Except SyntaxFault α :=
  fault message (Token.near .eof) line

def isNewline (b : UInt8) : Bool :=
  b = 10 || b = 13

/-- What follows the line break at the head of a text. -/
def skipNewline : List UInt8 → List UInt8
  | a :: b :: rest => if isNewline b && a ≠ b then rest else b :: rest
  | _ => []

/-! ## Long brackets -/

/-- The level of the long bracket whose first bracket has been read, if it is one: so many
equality signs and another bracket. The signs are answered in any case. -/
def longLevel (bracket : UInt8) (rest : List UInt8) : Nat × Bool :=
  let signs := rest.takeWhile (· = 61)
  (signs.length, (rest.drop signs.length).head? = some bracket)

/-- The content of a long bracket up to its end; `text` is what was read, last byte first. -/
def longBody (level start : Nat) (what : String) :
    Nat → List UInt8 → List UInt8 → Nat → Scan (List UInt8)
  | 0, _, _, line => faultAtEnd s!"unfinished long {what} (starting at line {start})" line
  | _, _, [], line => faultAtEnd s!"unfinished long {what} (starting at line {start})" line
  | n + 1, text, b :: rest, line =>
      if b = 93 && longLevel 93 rest = (level, true) then
        .ok (text.reverse, ⟨rest.drop (level + 1), line⟩)
      else if isNewline b then
        longBody level start what n (10 :: text) (skipNewline (b :: rest)) (line + 1)
      else longBody level start what n (b :: text) rest line

/-- A long bracket after its opening. -/
def long (level : Nat) (what : String) (rest : List UInt8) (line : Nat) : Scan (List UInt8) :=
  let body := rest.drop (level + 1)
  match body with
  | b :: _ =>
      if isNewline b then
        longBody level line what (body.length + 1) [] (skipNewline body) (line + 1)
      else longBody level line what (body.length + 1) [] body line
  | [] => longBody level line what 1 [] [] line

/-! ## Quoted strings -/

/-- The bytes of a code point of up to thirty-one bits. -/
def encodeUtf8 (n : Nat) : List UInt8 :=
  if n < 0x80 then [UInt8.ofNat n]
  else
    let tail (i : Nat) : UInt8 := UInt8.ofNat (0x80 + n / Nat.pow 64 i % 64)
    if n < 0x800 then [UInt8.ofNat (0xC0 + n / 64), tail 0]
    else if n < 0x10000 then [UInt8.ofNat (0xE0 + n / 4096), tail 1, tail 0]
    else if n < 0x200000 then
      [UInt8.ofNat (0xF0 + n / 262144), tail 2, tail 1, tail 0]
    else if n < 0x4000000 then
      [UInt8.ofNat (0xF8 + n / 16777216), tail 3, tail 2, tail 1, tail 0]
    else [UInt8.ofNat (0xFC + n / 1073741824), tail 4, tail 3, tail 2, tail 1, tail 0]

/-- The fault of an escape. `read` is its text up to the byte that is wrong, which is added
if there is one. -/
def escapeFault {α : Type} (message : String) (text read rest : List UInt8) (line : Nat) :
    Except SyntaxFault α :=
  faultNear message (text.reverse ++ read ++ rest.take 1) line

/-- Two hexadecimal digits. -/
def hexEscape (text rest : List UInt8) (line : Nat) : Except SyntaxFault (UInt8 × List UInt8) :=
  match rest with
  | a :: b :: more =>
      if !isHexDigit a then escapeFault "hexadecimal digit expected" text [92, 120] rest line
      else if !isHexDigit b then
        escapeFault "hexadecimal digit expected" text [92, 120, a] (b :: more) line
      else .ok (UInt8.ofNat (16 * digitValue a + digitValue b), more)
  | [a] =>
      if isHexDigit a then escapeFault "hexadecimal digit expected" text [92, 120, a] [] line
      else escapeFault "hexadecimal digit expected" text [92, 120] rest line
  | [] => escapeFault "hexadecimal digit expected" text [92, 120] [] line

/-- A code point in braces. -/
def codeEscape (text rest : List UInt8) (line : Nat) :
    Except SyntaxFault (List UInt8 × List UInt8) :=
  match rest with
  | 123 :: body =>
      let ds := body.takeWhile isHexDigit
      let after := body.drop ds.length
      let read := [92, 117, 123]
      if ds.isEmpty then escapeFault "hexadecimal digit expected" text read body line
      else
        let tooLarge := (List.range ds.length).find? fun i =>
          0 < i && 0x7FFFFFF < natOfDigits 16 (ds.take i)
        match tooLarge with
        | some i =>
            escapeFault "UTF-8 value too large" text (read ++ ds.take i) (body.drop i) line
        | none =>
            if after.head? = some 125 then .ok (encodeUtf8 (natOfDigits 16 ds), after.drop 1)
            else escapeFault "missing '\x7d'" text (read ++ ds) after line
  | _ => escapeFault "missing '\x7b'" text [92, 117] rest line

/-- Up to three decimal digits. -/
def decimalEscape (text rest : List UInt8) (line : Nat) :
    Except SyntaxFault (UInt8 × List UInt8) :=
  let ds := (rest.take 3).takeWhile isDigit
  let n := natOfDigits 10 ds
  if 255 < n then
    escapeFault "decimal escape too large" text (92 :: ds) (rest.drop ds.length) line
  else .ok (UInt8.ofNat n, rest.drop ds.length)

/-- The byte of an escape of one letter. -/
def letterEscape? (b : UInt8) : Option UInt8 :=
  match b with
  | 97 => some 7
  | 98 => some 8
  | 102 => some 12
  | 110 => some 10
  | 114 => some 13
  | 116 => some 9
  | 118 => some 11
  | 92 => some 92
  | 34 => some 34
  | 39 => some 39
  | _ => none

/-- Skip blanks and count the lines. -/
def skipSpace : Nat → List UInt8 → Nat → List UInt8 × Nat
  | 0, rest, line => (rest, line)
  | _, [], line => ([], line)
  | n + 1, b :: rest, line =>
      if isNewline b then skipSpace n (skipNewline (b :: rest)) (line + 1)
      else if isSpace b then skipSpace n rest line
      else (b :: rest, line)

/-- The content of a quoted string up to its end; `text` is what was read, the opening quote
included, last byte first. -/
def quoted (delimiter : UInt8) :
    Nat → List UInt8 → List UInt8 → Nat → Scan (List UInt8)
  | 0, _, _, line => faultAtEnd "unfinished string" line
  | _, _, [], line => faultAtEnd "unfinished string" line
  | n + 1, text, b :: rest, line =>
      if b = delimiter then .ok ((b :: text).reverse, ⟨rest, line⟩)
      else if isNewline b then faultNear "unfinished string" text.reverse line
      else if b ≠ 92 then quoted delimiter n (b :: text) rest line
      else match rest with
        | [] => faultAtEnd "unfinished string" line
        | c :: more =>
            if let some e := letterEscape? c then quoted delimiter n (e :: text) more line
            else if c = 120 then match hexEscape text more line with
              | .error e => .error e
              | .ok (e, more) => quoted delimiter n (e :: text) more line
            else if c = 117 then match codeEscape text more line with
              | .error e => .error e
              | .ok (es, more) => quoted delimiter n (es.reverse ++ text) more line
            else if isNewline c then
              quoted delimiter n (10 :: text) (skipNewline rest) (line + 1)
            else if c = 122 then
              let (more, line) := skipSpace more.length more line
              quoted delimiter n text more line
            else if isDigit c then match decimalEscape text rest line with
              | .error e => .error e
              | .ok (e, more) => quoted delimiter n (e :: text) more line
            else escapeFault "invalid escape sequence" text [92] rest line

/-! ## Numerals -/

/-- The text of a numeral: digits, points and exponents with their signs. -/
def numeralText (marks : List UInt8) : Nat → List UInt8 → List UInt8
  | 0, _ => []
  | _, [] => []
  | n + 1, b :: rest =>
      if marks.contains b then match rest with
        | s :: more =>
            if s = 43 || s = 45 then b :: s :: numeralText marks n more
            else b :: numeralText marks n rest
        | [] => [b]
      else if isHexDigit b || b = 46 then b :: numeralText marks n rest
      else []

/-- A numeral; a point can be its first character. -/
def numeral (rest : List UInt8) (line : Nat) : Scan Token :=
  let point : List UInt8 := if rest.head? = some 46 then [46] else []
  let body := rest.drop point.length
  let (start, marks) : List UInt8 × List UInt8 := match Numeral.hexBody? body with
    | some _ => (body.take 2, [80, 112])
    | none => (body.take 1, [69, 101])
  let more := body.drop start.length
  let raw := point ++ start ++ numeralText marks more.length more
  let after := rest.drop raw.length
  if after.head?.any isNameStart then
    faultNear "malformed number" (raw ++ after.take 1) line
  else match Numeral.read? raw with
    | some (.int n) => .ok (.int n raw, ⟨after, line⟩)
    | some (.num x) => .ok (.num x raw, ⟨after, line⟩)
    | _ => faultNear "malformed number" raw line

/-! ## Tokens -/

/-- Operators of several bytes, longer ones first. -/
def operators : List String :=
  ["...", "..", "==", "~=", "<=", ">=", "//", "<<", ">>", "::"]

/-- Operators of one byte. -/
def punctuation : String := "+-*/%^#&~|<>=(){}[];:,."

/-- An operator, or a byte that begins no token. -/
def operator (b : UInt8) (rest : List UInt8) (line : Nat) : Token × Source :=
  match operators.find? fun o => (Text.toBytes o).isPrefixOf (b :: rest) with
  | some o => (.symbol o, ⟨(b :: rest).drop o.length, line⟩)
  | none =>
      let c := Char.ofNat b.toNat
      if b < 128 && punctuation.toList.contains c then
        (.symbol (String.singleton c), ⟨rest, line⟩)
      else (.byte b, ⟨rest, line⟩)

/-- Read the next token. -/
def scan : Nat → List UInt8 → Nat → Scan Token
  | 0, _, line => .ok (.eof, ⟨[], line⟩)
  | _, [], line => .ok (.eof, ⟨[], line⟩)
  | n + 1, b :: rest, line =>
      if isNewline b then scan n (skipNewline (b :: rest)) (line + 1)
      else if isSpace b then scan n rest line
      else if b = 45 && rest.head? = some 45 then
        let rest := rest.drop 1
        match rest with
        | 91 :: more =>
            let (level, isLong) := longLevel 91 more
            if isLong then match long level "comment" more line with
              | .error e => .error e
              | .ok (_, s) => scan n s.rest s.line
            else scan n (rest.dropWhile (!isNewline ·)) line
        | _ => scan n (rest.dropWhile (!isNewline ·)) line
      else if b = 91 then
        let (level, isLong) := longLevel 91 rest
        if isLong then match long level "string" rest line with
          | .error e => .error e
          | .ok (bytes, s) =>
              let signs := List.replicate level 61
              .ok (.string bytes
                (91 :: signs ++ 91 :: bytes ++ 93 :: signs ++ [93]), s)
        else if level = 0 then .ok (.symbol "[", ⟨rest, line⟩)
        else faultNear "invalid long string delimiter" (91 :: List.replicate level 61) line
      else if b = 34 || b = 39 then match quoted b (rest.length + 1) [b] rest line with
        | .error e => .error e
        | .ok (raw, s) => .ok (.string (raw.drop 1).dropLast raw, s)
      else if isDigit b || (b = 46 && rest.head?.any isDigit) then numeral (b :: rest) line
      else if isNameStart b then
        let text := b :: rest.takeWhile isNamePart
        let after := (b :: rest).drop text.length
        let word := String.ofList (text.map fun c => Char.ofNat c.toNat)
        .ok (if Token.reserved.contains word then .symbol word else .name word, ⟨after, line⟩)
      else .ok (operator b rest line)

/-- Read the next token of a source. -/
def next (s : Source) : Scan Token :=
  scan (s.rest.length + 1) s.rest s.line

end Source

end LuaShell.Lua
