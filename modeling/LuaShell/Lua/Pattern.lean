import LuaShell.Lua.Numeral

/-!
# Patterns

Matching of bytes against patterns with classes, sets, repetitions, captures,
balanced pairs and frontiers.  A repetition is tried from its longest or its
shortest form on, and how deeply trials are nested is bounded.
-/

namespace LuaShell.Lua.Pattern

/-- How far a capture is. -/
inductive Extent where
  | opened
  | position
  | size (n : Nat)
  deriving DecidableEq

/-- A capture: where it begins, and how far it is. -/
structure Capture where
  start : Nat
  extent : Extent

/-- A trial fails with a message if the pattern is no pattern. -/
abbrev Trial := Except String (Option (Nat × Array Capture))

/-- The mark of classes and escapes. -/
def escape : UInt8 := 37

/-- How deeply trials can be nested. -/
def maxDepth : Nat := 200

/-- How many captures there can be. -/
def maxCaptures : Nat := 32

/-! ## Single characters -/

def isControl (b : UInt8) : Bool := b < 32 || b = 127

/-- A visible character of ASCII. -/
def isGraph (b : UInt8) : Bool := 33 ≤ b && b ≤ 126

def isPunctuation (b : UInt8) : Bool := isGraph b && !(isLetter b || isDigit b)

/-- Whether a byte is in the class of a letter. -/
def inClass (b letter : UInt8) : Bool :=
  let lower := if isUpper letter then letter + 32 else letter
  let found : Option Bool := match Char.ofNat lower.toNat with
    | 'a' => some (isLetter b)
    | 'c' => some (isControl b)
    | 'd' => some (isDigit b)
    | 'g' => some (isGraph b)
    | 'l' => some (isLower b)
    | 'p' => some (isPunctuation b)
    | 's' => some (isSpace b)
    | 'u' => some (isUpper b)
    | 'w' => some (isLetter b || isDigit b)
    | 'x' => some (isHexDigit b)
    | 'z' => some (b = 0)
    | _ => none
  match found with
  | some answer => if isUpper letter then !answer else answer
  | none => letter = b

/-- Where a set ends, after its first member. -/
def setEnd (pattern : ByteArray) : Nat → Nat → Except String Nat
  | 0, _ => .error "malformed pattern (missing ']')"
  | n + 1, i => match pattern[i]? with
    | none => .error "malformed pattern (missing ']')"
    | some b =>
        let i := if b = escape then i + 2 else i + 1
        if pattern[i]? = some 93 then .ok (i + 1) else setEnd pattern n i

/-- Where the single item at a place ends. -/
def itemEnd (pattern : ByteArray) (i : Nat) : Except String Nat :=
  match pattern[i]? with
  | some b =>
      if b = escape then
        if i + 1 < pattern.size then .ok (i + 2)
        else .error "malformed pattern (ends with '%')"
      else if b = 91 then
        let first := if pattern[i + 1]? = some 94 then i + 2 else i + 1
        setEnd pattern (pattern.size + 1) first
      else .ok (i + 1)
  | none => .ok i

/-- Whether a byte is one of the members of a set, between two places. -/
def inMembers (pattern : ByteArray) (b : UInt8) : Nat → Nat → Nat → Bool
  | 0, _, _ => false
  | n + 1, i, last =>
      if last ≤ i then false
      else
        let c := (pattern[i]?).getD 0
        if c = escape then
          inClass b ((pattern[i + 1]?).getD 0) || inMembers pattern b n (i + 2) last
        else if pattern[i + 1]? = some 45 && i + 2 < last then
          (c ≤ b && b ≤ (pattern[i + 2]?).getD 0) || inMembers pattern b n (i + 3) last
        else c = b || inMembers pattern b n (i + 1) last

/-- Whether a byte is in the set that begins at a place and ends before another. -/
def inSet (pattern : ByteArray) (b : UInt8) (first stop : Nat) : Bool :=
  let negated := pattern[first + 1]? = some 94
  let members := if negated then first + 2 else first + 1
  inMembers pattern b (pattern.size + 1) members (stop - 1) != negated

/-- Whether the byte at a place is what a single item of the pattern asks for. -/
def matchesItem (subject pattern : ByteArray) (s p stop : Nat) : Bool :=
  match subject[s]? with
  | none => false
  | some b => match pattern[p]? with
    | some 46 => true
    | some c =>
        if c = escape then inClass b ((pattern[p + 1]?).getD 0)
        else if c = 91 then inSet pattern b p stop
        else c = b
    | none => false

/-! ## Longer parts -/

/-- Where a balanced pair ends. -/
def balancedEnd? (subject : ByteArray) (opener closer : UInt8) : Nat → Nat → Nat → Option Nat
  | 0, _, _ => none
  | n + 1, s, level => match subject[s]? with
    | none => none
    | some b =>
        if b = closer then
          if level = 1 then some (s + 1) else balancedEnd? subject opener closer n (s + 1) (level - 1)
        else balancedEnd? subject opener closer n (s + 1) (if b = opener then level + 1 else level)

/-- How often a single item can be repeated. -/
def countItem (subject pattern : ByteArray) (p stop : Nat) : Nat → Nat → Nat
  | 0, _ => 0
  | n + 1, s =>
      if matchesItem subject pattern s p stop then countItem subject pattern p stop n (s + 1) + 1
      else 0

/-- The first success, from a number of repetitions downwards. -/
def longest (trial : Nat → Trial) (s : Nat) : Nat → Trial
  | 0 => trial s
  | n + 1 => match trial (s + (n + 1)) with
    | .ok none => longest trial s n
    | other => other

/-- The first success, from no repetition upwards. -/
def shortest (trial : Nat → Trial) (isItem : Nat → Bool) : Nat → Nat → Trial
  | 0, s => trial s
  | n + 1, s => match trial s with
    | .ok none => if isItem s then shortest trial isItem n (s + 1) else .ok none
    | other => other

/-- The last capture that is open. -/
def openCapture? (captures : Array Capture) : Option Nat :=
  ((captures.toList.zipIdx.reverse).find? (·.1.extent = .opened)).map (·.2)

/-- The bytes of a finished capture that a digit names. A place is like no bytes at all. -/
def backReference (subject : ByteArray) (captures : Array Capture) (digit : UInt8) :
    Except String (Option ByteArray) :=
  let i := digit.toNat - 49
  let shown := digit.toNat - 48
  let invalid : Except String (Option ByteArray) := .error s!"invalid capture index %{shown}"
  if digit < 49 then invalid
  else match captures[i]? with
    | some ⟨start, .size n⟩ => .ok (some (subject.extract start (start + n)))
    | some ⟨_, .position⟩ => .ok none
    | _ => invalid

/-- Match from a place of the pattern on, given how to try what is nested. -/
def matchFrom (subject pattern : ByteArray) (trial : Nat → Nat → Array Capture → Trial) :
    Nat → Nat → Nat → Array Capture → Trial
  | 0, _, _, _ => .ok none
  | n + 1, s, p, captures =>
      let again (s p : Nat) : Trial := matchFrom subject pattern trial n s p captures
      let item : Trial := do
        let stop ← itemEnd pattern p
        let isItem (s : Nat) : Bool := matchesItem subject pattern s p stop
        let suffix := pattern[stop]?
        let rest (s : Nat) : Trial := trial s (stop + 1) captures
        if !isItem s then
          if suffix = some 42 || suffix = some 63 || suffix = some 45 then again s (stop + 1)
          else .ok none
        else match suffix with
          | some 63 => match ← rest (s + 1) with
            | some found => .ok (some found)
            | none => again s (stop + 1)
          | some 43 =>
              longest rest (s + 1) (countItem subject pattern p stop subject.size (s + 1))
          | some 42 => longest rest s (countItem subject pattern p stop subject.size s)
          | some 45 => shortest rest isItem subject.size s
          | _ => again (s + 1) stop
      let opening (extent : Extent) (p : Nat) : Trial :=
        if maxCaptures ≤ captures.size then .error "too many captures"
        else trial s p (captures.push ⟨s, extent⟩)
      match pattern[p]? with
      | none => .ok (some (s, captures))
      | some 40 =>
          if pattern[p + 1]? = some 41 then opening .position (p + 2)
          else opening .opened (p + 1)
      | some 41 => match openCapture? captures with
        | none => .error "invalid pattern capture"
        | some i => trial s (p + 1) (captures.modify i fun c => ⟨c.start, .size (s - c.start)⟩)
      | some 36 =>
          if p + 1 = pattern.size then .ok (if s = subject.size then some (s, captures) else none)
          else item
      | some 37 => match pattern[p + 1]? with
        | some 98 => match pattern[p + 2]?, pattern[p + 3]? with
          | some opener, some closer =>
              if subject[s]? = some opener then
                match balancedEnd? subject opener closer subject.size (s + 1) 1 with
                | some s => again s (p + 4)
                | none => .ok none
              else .ok none
          | _, _ => .error "malformed pattern (missing arguments to '%b')"
        | some 102 =>
            if pattern[p + 2]? = some 91 then do
              let stop ← itemEnd pattern (p + 2)
              let before := if s = 0 then 0 else (subject[s - 1]?).getD 0
              let here := (subject[s]?).getD 0
              if !inSet pattern before (p + 2) stop && inSet pattern here (p + 2) stop then
                again s stop
              else .ok none
            else .error "missing '[' after '%f' in pattern"
        | some d =>
            if isDigit d then do
              match ← backReference subject captures d with
              | some part =>
                  if subject.extract s (s + part.size) = part then again (s + part.size) (p + 2)
                  else .ok none
              | none => .ok none
            else item
        | none => item
      | some _ => item

/-- Match from a place of the subject and one of the pattern on, with trials nested so deep
at most. -/
def matchAt (subject pattern : ByteArray) : Nat → Nat → Nat → Array Capture → Trial
  | 0, _, _, _ => .error "pattern too complex"
  | depth + 1, s, p, captures =>
      matchFrom subject pattern (matchAt subject pattern depth) (pattern.size + 2) s p captures

/-- Match from a place of the subject on. -/
def run (subject pattern : ByteArray) (s p : Nat) : Trial :=
  matchAt subject pattern maxDepth s p #[]

/-- Whether a pattern is bound to the beginning. -/
def isAnchored (pattern : ByteArray) : Bool :=
  pattern[0]? = some 94

/-- The first match from a place of the subject on: where it begins and ends, and its
captures. -/
def search (subject pattern : ByteArray) : Nat → Nat →
    Except String (Option (Nat × Nat × Array Capture))
  | 0, _ => .ok none
  | n + 1, s => match run subject pattern s (if isAnchored pattern then 1 else 0) with
    | .error e => .error e
    | .ok (some (stop, captures)) => .ok (some (s, stop, captures))
    | .ok none =>
        if isAnchored pattern || subject.size ≤ s then .ok none
        else search subject pattern n (s + 1)

/-- The value of one capture; the whole match if there are none. -/
def captureValue (subject : ByteArray) (start stop : Nat) (captures : Array Capture) (i : Nat) :
    Except String Value :=
  match captures[i]? with
  | some ⟨place, .position⟩ => .ok (.int (Int64.ofNat (place + 1)))
  | some ⟨place, .size n⟩ => .ok (.str (subject.extract place (place + n)))
  | some ⟨_, .opened⟩ => .error "unfinished capture"
  | none =>
      if i = 0 then .ok (.str (subject.extract start stop))
      else .error s!"invalid capture index %{i + 1}"

/-- The values of the captures. The whole match counts as one if there are none and it is
wanted. -/
def captureValues (subject : ByteArray) (start stop : Nat) (captures : Array Capture)
    (wholeIfNone : Bool) : Except String (List Value) :=
  let count := if captures.isEmpty && wholeIfNone then 1 else captures.size
  (List.range count).mapM (captureValue subject start stop captures)

end LuaShell.Lua.Pattern
