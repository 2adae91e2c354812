import JmapClient.Calendar
import JmapClient.Json.Readable
import JmapClient.Power

/-!
# Timestamps

A `Date` is a local time together with its offset from UTC, and a `UtcDate` is an instant. Both are read
from RFC 3339 timestamps (`Date.ofText?`) and written without a fraction. Dates compare by their instants.
The sixtieth second of a minute is a leap second: it lies in the second before it, after its fractions.
-/

namespace JmapClient

open Json Calendar

/-- What is wrong with a timestamp. -/
inductive TimestampFault
  | badCharacter
  | tooShort
  | outOfRange
  | trailing
deriving DecidableEq, Repr

/-- The wording of what is wrong with a timestamp. -/
def TimestampFault.message : TimestampFault → String
  | .badCharacter => "input contains invalid characters"
  | .tooShort => "premature end of input"
  | .outOfRange => "input is out of range"
  | .trailing => "trailing input"

/-- A time of day on a day, by the clock of some place. -/
structure LocalTime where
  date : Day
  hour : Nat
  minute : Nat
  /-- From 0 to 60, where 60 is a leap second. -/
  second : Nat
  nanosecond : Nat
deriving DecidableEq, Repr

/-- An instant: seconds since 1970, leap seconds not counted, and nanoseconds, of which a leap second has
`nanosPerSecond` more. -/
structure UtcDate where
  seconds : Int
  nanoseconds : Nat
deriving DecidableEq, Repr

/-- A local time and its offset from UTC in minutes, positive to the east. -/
structure Date where
  time : LocalTime
  offset : Int
deriving DecidableEq, Repr

/-! ### Instants -/

/-- The nanoseconds in a second. -/
def nanosPerSecond : Nat := 1000000000

/-- The instant at which a clock that is right for UTC shows `t`. -/
def LocalTime.instant (t : LocalTime) : UtcDate :=
  let leap := t.second = 60
  let second := if leap then 59 else t.second
  ⟨dayNumber t.date * 86400 + (t.hour * 3600 + t.minute * 60 + second : Nat),
    t.nanosecond + if leap then nanosPerSecond else 0⟩

/-- What a clock that is right for UTC shows at the instant `u`. -/
def UtcDate.time (u : UtcDate) : LocalTime :=
  let secondOfDay := (u.seconds % 86400).toNat
  let leap := nanosPerSecond ≤ u.nanoseconds
  { date := dayOfNumber (u.seconds / 86400)
    hour := secondOfDay / 3600
    minute := secondOfDay / 60 % 60
    second := secondOfDay % 60 + if leap then 1 else 0
    nanosecond := if leap then u.nanoseconds - nanosPerSecond else u.nanoseconds }

/-- The instant of a date. -/
def Date.utc (d : Date) : UtcDate :=
  let i := d.time.instant
  ⟨i.seconds - d.offset * 60, i.nanoseconds⟩

/-- Which of the instants `a` and `b` is the earlier. -/
def UtcDate.compare (a b : UtcDate) : Ordering :=
  (Ord.compare a.seconds b.seconds).then (Ord.compare a.nanoseconds b.nanoseconds)

/-- Which of the dates `a` and `b` is the earlier, wherever they were. -/
def Date.compare (a b : Date) : Ordering := a.utc.compare b.utc

/-! ### Writing -/

/-- A number in at least `width` digits. -/
def padded (width n : Nat) : String :=
  let text := Nat.repr n
  String.ofList (List.replicate (width - text.length) '0') ++ text

/-- A year: four digits, or a sign and at least four outside of 0 to 9999. -/
def yearText (year : Int) : String :=
  if 0 ≤ year ∧ year ≤ 9999 then padded 4 year.toNat
  else (if year < 0 then "-" else "+") ++ padded 4 year.natAbs

/-- A local time without its fraction. -/
def LocalTime.print (t : LocalTime) : String :=
  yearText t.date.year ++ "-" ++ padded 2 t.date.month ++ "-" ++ padded 2 t.date.day ++ "T" ++
    padded 2 t.hour ++ ":" ++ padded 2 t.minute ++ ":" ++ padded 2 t.second

/-- An offset from UTC: `Z`, or a sign, hours and minutes. -/
def offsetText (offset : Int) : String :=
  if offset = 0 then "Z"
  else
    let n := offset.natAbs
    (if offset < 0 then "-" else "+") ++ padded 2 (n / 60) ++ ":" ++ padded 2 (n % 60)

/-- The timestamp of a date. -/
def Date.print (d : Date) : String := d.time.print ++ offsetText d.offset

/-- The timestamp of an instant. -/
def UtcDate.print (u : UtcDate) : String := u.time.print ++ "Z"

/-! ### Reading -/

namespace Timestamp

/-- A reader of the front of a timestamp. -/
abbrev Reader (α : Type) : Type := List UInt8 → Except TimestampFault (α × List UInt8)

/-- Reads the byte `b`. -/
def exactly (b : UInt8) : Reader Unit
  | [] => .error .tooShort
  | c :: r => if c = b then .ok ((), r) else .error .badCharacter

/-- The number that decimal digits spell. -/
def ofDigits (ds : List Nat) : Nat := ds.foldl (fun n d => n * 10 + d) 0

/-- Reads a number of exactly `width` digits. -/
def number (width : Nat) : Reader Nat := fun s =>
  if s.length < width then .error .tooShort
  else match (s.take width).mapM digit? with
    | some ds => .ok (ofDigits ds, s.drop width)
    | none => .error .badCharacter

/-- The fewest bytes of a day and a time. -/
def minLength : Nat := 19

/-- Reads the mark between the day and the time. -/
def separator : Reader Unit
  | [] => .error .tooShort
  | b :: r =>
    if b = byte 'T' ∨ b = byte 't' ∨ b = byte ' ' then .ok ((), r) else .error .badCharacter

/-- Reads the nanoseconds of a second, if a `.` follows. Digits beyond the ninth are left out. -/
def fraction : Reader Nat
  | [] => .ok (0, [])
  | b :: r =>
    if b = byte '.' then
      match digits r with
      | ([], _) => .error (if r.isEmpty then .tooShort else .badCharacter)
      | (ds, rest) =>
        let kept := ds.take 9
        .ok (ofDigits kept * tenTo (9 - kept.length), rest)
    else .ok (0, b :: r)

/-- Reads a sign; the mathematical minus counts as one. -/
def sign : Reader Bool
  | [] => .error .tooShort
  | 0xE2 :: 0x88 :: 0x92 :: r => .ok (true, r)
  | b :: r =>
    if b = byte '+' then .ok (false, r)
    else if b = byte '-' then .ok (true, r)
    else .error .badCharacter

/-- Reads an offset from UTC, in minutes. -/
def offset : Reader Int
  | s@(b :: r) =>
    if b = byte 'Z' ∨ b = byte 'z' then .ok (0, r) else signed s
  | [] => .error .tooShort
where
  /-- Reads an offset with a sign. -/
  signed : Reader Int := fun s => do
    let (west, s) ← sign s
    let (hours, s) ← number 2 s
    let ((), s) ← exactly (byte ':') s
    let (minutes, s) ← number 2 s
    if 59 < minutes then .error .outOfRange
    else
      let n : Int := hours * 60 + minutes
      return (if west then -n else n, s)

end Timestamp

open Timestamp in
/-- The date that a timestamp spells. A day that the calendar has not is refused as soon as it was read, a
time that no clock shows behind its fraction, and an offset of a day or more at the end. -/
def Date.ofText? (text : String) : Except TimestampFault Date := do
  let s := Utf8.encode text
  if s.length < minLength then .error .tooShort
  let (year, s) ← number 4 s
  let ((), s) ← exactly (byte '-') s
  let (month, s) ← number 2 s
  let ((), s) ← exactly (byte '-') s
  let (day, s) ← number 2 s
  let date : Day := ⟨year, month, day⟩
  if !date.exists then .error .outOfRange
  let ((), s) ← separator s
  let (hour, s) ← number 2 s
  let ((), s) ← exactly (byte ':') s
  let (minute, s) ← number 2 s
  let ((), s) ← exactly (byte ':') s
  let (second, s) ← number 2 s
  let (nanosecond, s) ← fraction s
  if 23 < hour ∨ 59 < minute ∨ 60 < second then .error .outOfRange
  let (offset, s) ← Timestamp.offset s
  if !s.isEmpty then .error .trailing
  if 24 * 60 ≤ offset.natAbs then .error .outOfRange
  return ⟨⟨date, hour, minute, second, nanosecond⟩, offset⟩

/-- The date in a JSON string. -/
def readDate (d : Draft) : Except Problem Date := do
  let text : String ← read d
  match Date.ofText? text with
  | .ok date => return date
  | .error f => .error (.here (.refused f.message))

instance : Readable Date where
  read := readDate

instance : Writable Date where
  write d := .ok (.string d.print)

instance : Readable UtcDate where
  read d := (readDate d).map Date.utc

instance : Writable UtcDate where
  write u := .ok (.string u.print)

end JmapClient
