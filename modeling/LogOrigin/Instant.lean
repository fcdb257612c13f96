import LogOrigin.Text.Blank
import LogOrigin.Text.Decimal

/-!
# Instants

An instant is a date of the proleptic Gregorian calendar and a time of day in UTC. A leap second is
second 59 with a billion nanoseconds and more. Texts are read leniently: blanks are allowed before
numbers and the offset, the date and the time may be separated by a blank, and any offset from UTC
is removed by moving the time. They are written in one form, with a `Z` and as many fraction digits
as a multiple of three takes.
-/

namespace LogOrigin

/-- A day of the calendar. -/
structure Date where
  year : Int
  month : Nat
  day : Nat
  deriving DecidableEq, Repr

/-- A time of day; `nano` counts on beyond a billion inside a leap second. -/
structure TimeOfDay where
  hour : Nat
  minute : Nat
  second : Nat
  nano : Nat
  deriving DecidableEq, Repr

/-- The seconds that the nanoseconds count on: one inside a leap second, and none otherwise. -/
def TimeOfDay.leap (t : TimeOfDay) : Nat := if 1000000000 ≤ t.nano then 1 else 0

/-- A point in time, in UTC. -/
structure Instant where
  date : Date
  time : TimeOfDay
  deriving DecidableEq, Repr

namespace Date

/-- The first and the last year of the calendar. -/
def leastYear : Int := -262143

/-- The last year of the calendar. -/
def greatestYear : Int := 262142

/-- Every fourth year, but of the full centuries only every fourth. -/
def isLeapYear (year : Int) : Bool :=
  year % 4 == 0 && (year % 100 != 0 || year % 400 == 0)

/-- The length of a month. -/
def daysInMonth (year : Int) (month : Nat) : Nat :=
  if month == 2 then if isLeapYear year then 29 else 28
  else if [4, 6, 9, 11].contains month then 30
  else 31

/-- The date of a year, month and day that exist. -/
def of? (year : Int) (month day : Nat) : Option Date :=
  if leastYear ≤ year && year ≤ greatestYear && 1 ≤ month && month ≤ 12 && 1 ≤ day &&
      day ≤ daysInMonth year month then
    some ⟨year, month, day⟩
  else none

/-- The next day, unless the calendar ends. -/
def next? (d : Date) : Option Date :=
  if d.day < daysInMonth d.year d.month then some { d with day := d.day + 1 }
  else if d.month < 12 then some ⟨d.year, d.month + 1, 1⟩
  else of? (d.year + 1) 1 1

/-- The day before, unless the calendar begins. -/
def previous? (d : Date) : Option Date :=
  if 1 < d.day then some { d with day := d.day - 1 }
  else if 1 < d.month then some ⟨d.year, d.month - 1, daysInMonth d.year (d.month - 1)⟩
  else of? (d.year - 1) 12 31

end Date

namespace Instant

/-- Why a text is not an instant. -/
inductive Fault where
  | tooShort
  | invalid
  | outOfRange
  | impossible
  | tooLong
  deriving DecidableEq, Repr

/-- The wording of a fault. -/
def Fault.message : Fault → String
  | tooShort => "premature end of input"
  | invalid => "input contains invalid characters"
  | outOfRange => "input is out of range"
  | impossible => "no possible date and time matching input"
  | tooLong => "trailing input"

/-! ## Writing -/

/-- A year: four digits from 0 to 9999, otherwise with its sign and at least four digits. -/
def yearText (year : Int) : String :=
  if 0 ≤ year && year ≤ 9999 then Text.padded 4 year.natAbs
  else (if year < 0 then "-" else "+") ++ Text.padded 4 year.natAbs

/-- A fraction of a second in as few groups of three digits as it takes. -/
def fractionText (nano : Nat) : String :=
  if nano = 0 then ""
  else if nano % 1000000 = 0 then "." ++ Text.padded 3 (nano / 1000000)
  else if nano % 1000 = 0 then "." ++ Text.padded 6 (nano / 1000)
  else "." ++ Text.padded 9 nano

/-- The text of an instant between its year and its fraction of a second. -/
def middleText (t : Instant) : String :=
  "-" ++ Text.padded 2 t.date.month ++ "-" ++ Text.padded 2 t.date.day ++
    "T" ++ Text.padded 2 t.time.hour ++ ":" ++ Text.padded 2 t.time.minute ++ ":" ++
    Text.padded 2 (t.time.second + t.time.leap)

/-- The text of an instant. -/
def text (t : Instant) : String :=
  yearText t.date.year ++ t.middleText ++
    fractionText (t.time.nano - t.time.leap * 1000000000) ++ "Z"

/-- The parts of a year: its digits one by one, or those of a number behind a sign. -/
def yearParts (year : Int) : List String :=
  if 0 ≤ year && year ≤ 9999 then Text.characters (yearText year).toList
  else Text.markedParts (yearText year).toList

/-- The parts in which the text of an instant is handed on: its characters one by one, but for the
digits of a fraction or of a year with a sign. -/
def parts (t : Instant) : List String :=
  yearParts t.date.year ++ Text.characters t.middleText.toList ++
    Text.markedParts (fractionText (t.time.nano - t.time.leap * 1000000000)).toList ++ ["Z"]

/-! ## Reading -/

/-- The greatest number that is read; one digit more goes out of range. -/
def greatestNumber : Nat := Nat.pow 2 63 - 1

/-- Further digits of a number, at most `most` of them. -/
def moreDigits (n : Nat) : Nat → List Char → Except Fault (Nat × List Char)
  | 0, cs => .ok (n, cs)
  | _ + 1, [] => .ok (n, [])
  | most + 1, c :: rest =>
    match Text.digit? c with
    | none => .ok (n, c :: rest)
    | some d =>
      if greatestNumber < n * 10 + d then .error .outOfRange else moreDigits (n * 10 + d) most rest

/-- A number of one to `most` digits. -/
def number (most : Nat) : List Char → Except Fault (Nat × List Char)
  | [] => .error .tooShort
  | c :: rest => if (Text.digit? c).isSome then moreDigits 0 most (c :: rest) else .error .invalid

/-- A number of one or two digits after blanks, between bounds. -/
def field (least greatest : Nat) (cs : List Char) : Except Fault (Nat × List Char) := do
  let (n, rest) ← number 2 (Text.trimStart cs)
  if least ≤ n && n ≤ greatest then return (n, rest) else throw .outOfRange

/-- A year after blanks: up to four digits, or any number of them behind a sign. -/
def year (cs : List Char) : Except Fault (Int × List Char) := do
  let cs := Text.trimStart cs
  let (y, rest) ← match cs with
    | '-' :: digits => do
      let (n, rest) ← number digits.length digits
      pure (-(n : Int), rest)
    | '+' :: digits => do
      let (n, rest) ← number digits.length digits
      pure ((n : Int), rest)
    | _ => do
      let (n, rest) ← number 4 cs
      pure ((n : Int), rest)
  if -Int.pow 2 31 ≤ y && y < Int.pow 2 31 then return (y, rest) else throw .outOfRange

/-- A separator after blanks. -/
def separator (mark : Char) (cs : List Char) : Except Fault (Unit × List Char) :=
  match Text.trimStart cs with
  | [] => .error .tooShort
  | c :: rest => if c == mark then .ok ((), rest) else .error .invalid

/-- The letter or blank between date and time. -/
def middle : List Char → Except Fault (Unit × List Char)
  | [] => .error .tooShort
  | c :: rest => if c == 't' || c == 'T' || c == ' ' then .ok ((), rest) else .error .invalid

/-- A fraction of a second in nanoseconds, if there is one; digits beyond the ninth are dropped. -/
def fraction : List Char → Except Fault (Nat × List Char)
  | '.' :: cs => do
    let (n, rest) ← number 9 cs
    let places := cs.length - rest.length
    return (n * Nat.pow 10 (9 - places), rest.dropWhile fun c => (Text.digit? c).isSome)
  | cs => .ok (0, cs)

/-- Two digits, the first below `first`. -/
def twoDigits (first : Nat) : List Char → Except Fault (Nat × List Char)
  | a :: b :: rest =>
    match Text.digit? a, Text.digit? b with
    | some a, some b => if a < first then .ok (a * 10 + b, rest) else .error .outOfRange
    | _, _ => .error .invalid
  | _ => .error .tooShort

/-- What must be left for two more digits: two bytes, whatever they are. -/
def hasTwoBytes (cs : List Char) : Bool :=
  match cs with
  | [] => false
  | [c] => 2 ≤ c.utf8Size
  | _ => true

/-- An offset from UTC in minutes: a `Z` or `UTC`, or a sign, hours and minutes. -/
def offset (cs : List Char) : Except Fault (Int × List Char) :=
  match Text.trimStart cs with
  | [] => .error .tooShort
  | c :: rest =>
    if c == 'Z' || c == 'z' then .ok (0, rest)
    else if (c :: rest).take 3 |>.map Char.toUpper |> (· == ['U', 'T', 'C']) then
      .ok (0, rest.drop 2)
    else if c == '+' || c == '-' || c == '\u2212' then do
      let (hours, rest) ← pair 10 rest
      let rest := rest.dropWhile fun c => c == ':' || Text.isBlank c
      let (minutes, rest) ← pair 6 rest
      let minutes : Int := hours * 60 + minutes
      return (if c == '+' then minutes else -minutes, rest)
    else .error .invalid
where
  /-- Two digits; a single character of several bytes is wrong rather than missing. -/
  pair (first : Nat) (cs : List Char) : Except Fault (Nat × List Char) :=
    if cs.length < 2 && hasTwoBytes cs then .error .invalid else twoDigits first cs

/-- Moves a local time to UTC, given its offset in minutes. -/
def removeOffset (wall : Instant) (minutes : Int) : Option Instant :=
  let total := wall.time.hour * 60 + wall.time.minute - minutes
  let inDay := (total % 1440).toNat
  let time := { wall.time with hour := inDay / 60, minute := inDay % 60 }
  let date :=
    if total < 0 then wall.date.previous?
    else if total < 1440 then some wall.date
    else wall.date.next?
  date.map (⟨·, time⟩)

/-- Reads an instant. -/
def parse (s : String) : Except Fault Instant := do
  let (y, cs) ← year s.toList
  let (_, cs) ← separator '-' cs
  let (month, cs) ← field 1 12 cs
  let (_, cs) ← separator '-' cs
  let (day, cs) ← field 1 31 cs
  let (_, cs) ← middle cs
  let (hour, cs) ← field 0 23 cs
  let (_, cs) ← separator ':' cs
  let (minute, cs) ← field 0 59 cs
  let (_, cs) ← separator ':' cs
  let (second, cs) ← field 0 60 cs
  let (nano, cs) ← fraction cs
  let (minutes, cs) ← offset cs
  unless (Text.trimStart cs).isEmpty do throw .tooLong
  let some date := Date.of? y month day | throw .outOfRange
  let time : TimeOfDay :=
    if second = 60 then ⟨hour, minute, 59, 1000000000 + nano⟩ else ⟨hour, minute, second, nano⟩
  unless minutes.natAbs < 1440 do throw .outOfRange
  let some t := removeOffset ⟨date, time⟩ minutes | throw .impossible
  return t

end Instant

end LogOrigin
