import LuaShell.Lua.Act
import LuaShell.Number.Calendar
import LuaShell.Number.Notation

/-!
# Dates and times

Moments written by a format, taken apart into fields, and put together from them.  The
local time is that of Greenwich, but its zone has another name.
-/

namespace LuaShell.Lua.Library.Dates

/-- Days and months, as dates name them. -/
def dayNames : List String :=
  ["Sunday", "Monday", "Tuesday", "Wednesday", "Thursday", "Friday", "Saturday"]

def monthNames : List String :=
  ["January", "February", "March", "April", "May", "June", "July", "August", "September",
   "October", "November", "December"]

/-- A number with so many places, filled with zeros. -/
def padded (width : Nat) (n : Int) : String :=
  (if n < 0 then "-" else "") ++ Notation.padZero width (toString n.natAbs)

/-- A number with so many places, filled with blanks. -/
def blankPadded (width : Nat) (n : Int) : String :=
  let text := toString n
  String.ofList (List.replicate (width - text.length) ' ') ++ text

/-- The hour on a clock with twelve hours. -/
def clockHour (t : Moment) : Int :=
  (t.hour + 11) % 12 + 1

/-- The week of the year and the year it belongs to, if weeks belong where their Thursday
is. -/
def weekOf (t : Moment) : Int × Int :=
  let fromMonday := (Calendar.weekday t + 6) % 7
  let thursday := Calendar.dayNumber t.year t.month t.day - fromMonday + 3
  let (year, _, _) := Calendar.ofDayNumber thursday
  (year, (thursday - Calendar.dayNumber year 1 1) / 7 + 1)

/-- What a letter of a date format stands for. -/
def dateField? (t : Moment) (zone : String) (letter : Char) : Option String :=
  let day := (dayNames[(Calendar.weekday t).toNat]?).getD ""
  let month := (monthNames[(t.month - 1).toNat]?).getD ""
  let short (s : String) : String := String.ofList (s.toList.take 3)
  let time := s!"{padded 2 t.hour}:{padded 2 t.minute}:{padded 2 t.second}"
  let half := if t.hour < 12 then "AM" else "PM"
  match letter with
  | 'a' => some (short day)
  | 'A' => some day
  | 'b' | 'h' => some (short month)
  | 'B' => some month
  | 'c' => some s!"{short day} {short month} {blankPadded 2 t.day} {time} {t.year}"
  | 'C' => some (toString (t.year / 100))
  | 'd' => some (padded 2 t.day)
  | 'D' | 'x' => some s!"{padded 2 t.month}/{padded 2 t.day}/{padded 2 (t.year % 100)}"
  | 'e' => some (blankPadded 2 t.day)
  | 'F' => some s!"{t.year}-{padded 2 t.month}-{padded 2 t.day}"
  | 'g' => some (padded 2 ((weekOf t).1 % 100))
  | 'G' => some (toString (weekOf t).1)
  | 'H' => some (padded 2 t.hour)
  | 'I' => some (padded 2 (clockHour t))
  | 'j' => some (padded 3 (Calendar.yearDay t + 1))
  | 'm' => some (padded 2 t.month)
  | 'M' => some (padded 2 t.minute)
  | 'n' => some "\n"
  | 'p' => some half
  | 'r' => some s!"{padded 2 (clockHour t)}:{padded 2 t.minute}:{padded 2 t.second} {half}"
  | 'R' => some s!"{padded 2 t.hour}:{padded 2 t.minute}"
  | 'S' => some (padded 2 t.second)
  | 't' => some "\t"
  | 'T' | 'X' => some time
  | 'u' => some (toString ((Calendar.weekday t + 6) % 7 + 1))
  | 'U' => some (padded 2 ((Calendar.yearDay t + 7 - Calendar.weekday t) / 7))
  | 'V' => some (padded 2 (weekOf t).2)
  | 'w' => some (toString (Calendar.weekday t))
  | 'W' => some (padded 2 ((Calendar.yearDay t + 7 - (Calendar.weekday t + 6) % 7) / 7))
  | 'y' => some (padded 2 (t.year % 100))
  | 'Y' => some (toString t.year)
  | 'z' => some "+0000"
  | 'Z' => some zone
  | '%' => some "%"
  | _ => none

/-- The letters that can follow a modifier. -/
def modified : Char → List Char
  | 'E' => ['c', 'C', 'x', 'X', 'y', 'Y']
  | 'O' => ['d', 'e', 'H', 'I', 'm', 'M', 'S', 'u', 'U', 'V', 'w', 'W', 'y']
  | _ => []

/-- The letter of a byte. -/
def letter (b : UInt8) : Char := Char.ofNat b.toNat

/-- What a format has after a percent sign, as text, and what follows; a modifier changes
nothing. -/
def conversion? (t : Moment) (zone : String) : List UInt8 → Option (String × List UInt8)
  | [] => none
  | a :: rest => match dateField? t zone (letter a), rest with
    | some text, _ => some (text, rest)
    | none, b :: rest =>
        if (modified (letter a)).contains (letter b) then
          (dateField? t zone (letter b)).map fun text => (text, rest)
        else none
    | none, [] => none

/-- A date written by a format, of which each step takes something away. What begins with a
letter that stands for nothing is the failure. -/
def writeDate (t : Moment) (zone : String) : Nat → List UInt8 → Except (List UInt8) (List UInt8)
  | 0, _ | _, [] => .ok []
  | n + 1, b :: rest =>
      if b ≠ 37 then (writeDate t zone n rest).map (b :: ·)
      else match conversion? t zone rest with
        | some (text, rest) => (writeDate t zone n rest).map (Text.toBytes text ++ ·)
        | none => .error rest

/-- The fields of a moment in a table. -/
def fieldsOf (t : Moment) : List (Value × Value) :=
  let field (name : String) (n : Int) : Value × Value := (.ofString name, .int (Int64.ofInt n))
  [field "year" t.year, field "month" t.month, field "day" t.day, field "hour" t.hour,
   field "min" t.minute, field "sec" t.second, field "yday" (Calendar.yearDay t + 1),
   field "wday" (Calendar.weekday t + 1), (.ofString "isdst", .bool false)]

/-- Whether the year of a moment is one that dates can have. -/
def isRepresentable (t : Moment) : Bool :=
  Int32.minValue.toInt ≤ t.year - 1900 && t.year - 1900 ≤ Int32.maxValue.toInt

/-- `date`. -/
def date : Native := fun _ _ args => do
  let format := (← Act.bytesOr args 1 "%c".toUTF8).data.toList
  let now ← Act.ofHost (·.now)
  let t := Calendar.ofSeconds (← Act.intOr args 2 (Int64.ofInt now)).toInt
  let (format, zone) := match format with
    | 33 :: rest => (rest, "GMT")
    | all => (all, "UTC")
  if !isRepresentable t then
    Act.fail "date result cannot be represented in this installation"
  if format.takeWhile (· ≠ 0) = Text.toBytes "*t" then
    return [← Act.newTable ((fieldsOf t).foldl (fun t e => t.set e.1 e.2) (Table.withRoom 0 9))]
  match writeDate t zone format.length format with
  | .ok text => return [.str ⟨text.toArray⟩]
  | .error rest =>
      let shown : ByteArray := ⟨(rest.takeWhile (· ≠ 0)).toArray⟩
      throw (.argument 1
        ("invalid conversion specifier '%".toUTF8 ++ shown ++ "'".toUTF8))

/-- A field of a table that holds a date. -/
def dateNumber (c : Calls) (v : Value) (name : String) (otherwise : Option Int) (delta : Int) :
    Act Int := do
  let x ← Act.index c v (.ofString name)
  match x.asInt? with
  | some n =>
      let n := n.toInt
      if (if 0 ≤ n then n - delta ≤ Int32.maxValue.toInt
          else Int32.minValue.toInt + delta ≤ n) then return n
      else Act.fail s!"field '{name}' is out-of-bound"
  | none =>
      if !x.isNil then Act.fail s!"field '{name}' is not an integer"
      else match otherwise with
        | some n => return n
        | none => Act.fail s!"field '{name}' missing in date table"

/-- `time`. The fields of the table become those of the moment that they name. -/
def time : Native := fun c _ args => do
  if Act.isAbsent args 1 then
    let now ← Act.ofHost (·.now)
    return [.int (Int64.ofInt now)]
  let v := Value.table (← Act.table args 1)
  let year ← dateNumber c v "year" none 1900
  let month ← dateNumber c v "month" none 1
  let day ← dateNumber c v "day" none 0
  let hour ← dateNumber c v "hour" (some 12) 0
  let minute ← dateNumber c v "min" (some 0) 0
  let second ← dateNumber c v "sec" (some 0) 0
  let _ ← Act.index c v (.ofString "isdst")
  let n := Calendar.seconds ⟨year, month, day, hour, minute, second⟩
  let t := Calendar.ofSeconds n
  if isRepresentable t then
    for (k, x) in fieldsOf t do Act.assign c v k x
  if n = -1 || !isRepresentable t then
    Act.fail "time result cannot be represented in this installation"
  return [.int (Int64.ofInt n)]

/-- `clock`. -/
def clock : Native := fun _ _ _ => return [.num 0.01]

/-- `difftime`. -/
def difftime : Native := fun _ _ args => do
  let a ← Act.int args 1
  let b ← Act.int args 2
  return [.num (Float.ofInt (a.toInt - b.toInt))]

/-- The functions and their names. -/
def functions : List (String × Native) :=
  [("clock", clock), ("date", date), ("difftime", difftime), ("time", time)]

end LuaShell.Lua.Library.Dates
