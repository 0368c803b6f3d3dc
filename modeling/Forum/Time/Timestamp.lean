import Forum.Text.Scan

/-!
# Times

Days of the calendar, and points in time as they are written.
-/

namespace Forum

/-! ## Calendar dates

Dates of the Gregorian calendar, extended backwards to year 0, and their distance in days from
1 January 1970. A value of `Date` is always a day that exists; `Date.of?` is the only check. -/

/-- Every fourth year is a leap year, except the hundredths that are not four-hundredths. -/
def isLeapYear (year : Nat) : Bool :=
  year % 4 = 0 && (year % 100 ≠ 0 || year % 400 = 0)

/-- The number of days of a month, counted from 1. -/
def daysInMonth (year month : Nat) : Nat :=
  if month = 2 then (if isLeapYear year then 29 else 28)
  else if month = 4 ∨ month = 6 ∨ month = 9 ∨ month = 11 then 30
  else 31

/-- A day of the calendar. -/
structure Date where
  /-- The year, from 0. -/
  year : Nat
  /-- The month, from 1. -/
  month : Nat
  /-- The day of the month, from 1. -/
  day : Nat
  /-- The month is one of twelve. -/
  month_mem : 1 ≤ month ∧ month ≤ 12
  /-- The day is one of the month's. -/
  day_mem : 1 ≤ day ∧ day ≤ daysInMonth year month
  deriving DecidableEq, Repr

/-- The day with the given numbers, if there is one. -/
def Date.of? (year month day : Nat) : Option Date :=
  if h : (1 ≤ month ∧ month ≤ 12) ∧ (1 ≤ day ∧ day ≤ daysInMonth year month) then
    some ⟨year, month, day, h.1, h.2⟩
  else none

/-- The number of days since 1 January 1970. The year is taken to begin in March, so that the leap
day is its last. -/
def Date.dayNumber (d : Date) : Int :=
  let year : Int := if d.month ≤ 2 then d.year - 1 else d.year
  let month : Int := ((d.month + 9) % 12 : Nat)
  365 * year + year / 4 - year / 100 + year / 400 + (153 * month + 2) / 5 + d.day - 719469

example : (Date.of? 1970 1 1).map Date.dayNumber = some 0 := by decide
example : (Date.of? 2000 3 1).map Date.dayNumber = some 11017 := by decide
example : (Date.of? 0 1 1).map Date.dayNumber = some (-719528) := by decide
example : Date.of? 1900 2 29 = none := by decide

/-! ## Timestamps

A point in time as it is written: a local date and time of day with nanoseconds, and the distance
of the local time from universal time. Second 60 is a leap second and counts as the second after
59, whatever the minute. `Timestamp.millis` is the number of whole milliseconds since the start of
1970 in universal time, rounded down. -/

/-- A local time with its offset. -/
structure Timestamp where
  /-- The local date. -/
  date : Date
  /-- The hour, below 24. -/
  hour : Nat
  /-- The minute, below 60. -/
  minute : Nat
  /-- The second, at most 60. -/
  second : Nat
  /-- The fraction of the second, below a billion. -/
  nanosecond : Nat
  /-- Local time minus universal time, in minutes. -/
  offset : Int
  /-- The clock shows a time of day. -/
  time_mem : hour < 24 ∧ minute < 60 ∧ second ≤ 60 ∧ nanosecond < 1000000000
  /-- The offset is less than a day. -/
  offset_mem : -1440 < offset ∧ offset < 1440
  deriving DecidableEq, Repr

/-- Seconds since the start of 1970 in universal time. -/
def Timestamp.seconds (t : Timestamp) : Int :=
  86400 * t.date.dayNumber + 3600 * t.hour + 60 * t.minute + t.second - 60 * t.offset

/-- Milliseconds since the start of 1970 in universal time, rounded down. -/
def Timestamp.millis (t : Timestamp) : Int :=
  1000 * t.seconds + (t.nanosecond / 1000000 : Nat)

/-- Noon of a day. -/
def Timestamp.noon : Timestamp :=
  ⟨⟨2025, 6, 1, by decide, by decide⟩, 12, 0, 0, 0, 0, by decide, by decide⟩

end Forum

/-! ## The written form

Reading and writing of RFC 3339 times such as `2024-01-01T00:00:00.5+01:00`. The reader goes from
left to right and reports the first problem; whether the parts of the clock are in range is only
looked at once the fraction has been read, and whether the offset is, once the whole text has.
The writer gives the fraction no digits, three, six or nine, the fewest that hold it. -/

namespace Forum.Timestamp

/-- Why a text is not a time. -/
inductive Problem where
  /-- A character stands where another one is needed. -/
  | invalid
  /-- A number is too large, or a day does not exist. -/
  | outOfRange
  /-- The text ends too early. -/
  | tooShort
  /-- The text goes on after the time. -/
  | trailing
  deriving DecidableEq, Repr

/-- The wording of a problem. -/
def Problem.message : Problem → String
  | .invalid => "input contains invalid characters"
  | .outOfRange => "input is out of range"
  | .tooShort => "premature end of input"
  | .trailing => "trailing input"

/-- The number of bytes that a text takes. -/
def byteCount (cs : List Char) : Nat :=
  cs.foldl (fun bytes c => bytes + c.utf8Size) 0

/-- Reads a number of exactly the given width. -/
def fixed (width : Nat) (cs : List Char) : Except Problem (Nat × List Char) :=
  match Numeral.natural? (cs.take width) with
  | some n => if (cs.take width).length = width then .ok (n, cs.drop width) else .error .invalid
  | none => .error .invalid

/-- Passes over one character that must be there. -/
def mark (ok : Char → Bool) : List Char → Except Problem (List Char)
  | c :: rest => if ok c then .ok rest else .error .invalid
  | [] => .error .invalid

/-- Reads a date: year, month and day, joined by hyphens. -/
def readDate (cs : List Char) : Except Problem (Date × List Char) := do
  let (year, cs) ← fixed 4 cs
  let cs ← mark (· = '-') cs
  let (month, cs) ← fixed 2 cs
  let cs ← mark (· = '-') cs
  let (day, cs) ← fixed 2 cs
  match Date.of? year month day with
  | some date => return (date, cs)
  | none => throw .outOfRange

/-- Reads the fraction of a second, if there is one, in nanoseconds. Digits beyond nine are
ignored. -/
def readFraction : List Char → Except Problem (Nat × List Char)
  | '.' :: cs =>
    let digits := cs.takeWhile Char.isDigit
    if cs.isEmpty then .error .tooShort
    else if digits.isEmpty then .error .invalid
    else .ok (Numeral.value ((digits ++ List.replicate 9 '0').take 9), cs.dropWhile Char.isDigit)
  | cs => .ok (0, cs)

/-- Reads two characters of an offset as a number. The text may end too early here. -/
def twoDigits : List Char → Except Problem ((Char × Char) × List Char)
  | a :: b :: cs => .ok ((a, b), cs)
  | cs => if byteCount cs < 2 then .error .tooShort else .error .invalid

/-- Reads the hours of an offset. -/
def offsetHours (cs : List Char) : Except Problem (Nat × List Char) := do
  let ((a, b), cs) ← twoDigits cs
  if a.isDigit && b.isDigit then return (Numeral.value [a, b], cs) else throw .invalid

/-- Reads the minutes of an offset. -/
def offsetMinutes (cs : List Char) : Except Problem (Nat × List Char) := do
  let ((a, b), cs) ← twoDigits cs
  if a.isDigit && b.isDigit then
    if Numeral.value [a, b] < 60 then return (Numeral.value [a, b], cs) else throw .outOfRange
  else throw .invalid

/-- Reads hours and minutes of an offset with a colon between them. -/
def offsetAfterSign (cs : List Char) : Except Problem (Nat × List Char) := do
  let (hours, cs) ← offsetHours cs
  match cs with
  | [] => throw .tooShort
  | ':' :: cs =>
    let (minutes, cs) ← offsetMinutes cs
    return (60 * hours + minutes, cs)
  | _ => throw .invalid

/-- Reads the zone: universal time, or an offset in minutes. -/
def readZone : List Char → Except Problem (Int × List Char)
  | [] => .error .tooShort
  | c :: cs =>
    if c = 'Z' ∨ c = 'z' then .ok (0, cs)
    else if c = '+' then (offsetAfterSign cs).map fun (n, cs) => ((n : Int), cs)
    else if c = '-' ∨ c = '−' then (offsetAfterSign cs).map fun (n, cs) => (-(n : Int), cs)
    else .error .invalid

/-- Reads a time of which the whole text consists. -/
def parse (text : String) : Except Problem Timestamp := do
  let cs := text.toList
  if byteCount cs < 19 then throw .tooShort
  let (date, cs) ← readDate cs
  let cs ← mark (fun c => c = 'T' || c = 't' || c = ' ') cs
  let (hour, cs) ← fixed 2 cs
  let cs ← mark (· = ':') cs
  let (minute, cs) ← fixed 2 cs
  let cs ← mark (· = ':') cs
  let (second, cs) ← fixed 2 cs
  let (nanosecond, cs) ← readFraction cs
  if time : hour < 24 ∧ minute < 60 ∧ second ≤ 60 ∧ nanosecond < 1000000000 then
    let (offset, cs) ← readZone cs
    if !cs.isEmpty then throw .trailing
    else if zone : -1440 < offset ∧ offset < 1440 then
      return ⟨date, hour, minute, second, nanosecond, offset, time, zone⟩
    else throw .outOfRange
  else throw .outOfRange

/-- The fraction with its point, in the fewest of three, six and nine digits; nothing for zero. -/
def fractionChars (nanosecond : Nat) : List Char :=
  if nanosecond = 0 then []
  else if nanosecond % 1000000 = 0 then '.' :: Numeral.padded 3 (nanosecond / 1000000 : Nat)
  else if nanosecond % 1000 = 0 then '.' :: Numeral.padded 6 (nanosecond / 1000 : Nat)
  else '.' :: Numeral.padded 9 nanosecond

/-- The offset with its sign. Universal time is written with a plus sign. -/
def offsetChars (offset : Int) : List Char :=
  (if offset < 0 then '-' else '+') :: (Numeral.padded 2 (offset.natAbs / 60 : Nat)
    ++ ':' :: Numeral.padded 2 (offset.natAbs % 60 : Nat))

/-- The written form of a time in its own offset. -/
def render (t : Timestamp) : String :=
  String.ofList (Numeral.padded 4 t.date.year ++ '-' :: Numeral.padded 2 t.date.month
    ++ '-' :: Numeral.padded 2 t.date.day ++ 'T' :: Numeral.padded 2 t.hour
    ++ ':' :: Numeral.padded 2 t.minute ++ ':' :: Numeral.padded 2 t.second
    ++ fractionChars t.nanosecond ++ offsetChars t.offset)

end Forum.Timestamp
