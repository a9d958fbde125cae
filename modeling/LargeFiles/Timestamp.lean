/-!
# Timestamps

Points in time of the proleptic Gregorian calendar, in UTC, to the nanosecond, as the locking
API exchanges them.  A minute may have a sixtieth second, so that leap seconds keep their name.
-/

namespace LargeFiles

namespace Timestamp

/-- Whether a year has a 29th of February. -/
def isLeapYear (year : Int) : Bool :=
  year % 4 == 0 && (year % 100 != 0 || year % 400 == 0)

/-- The number of days of a month. -/
def daysInMonth (year : Int) (month : Nat) : Nat :=
  if month = 2 then (if isLeapYear year then 29 else 28)
  else if [4, 6, 9, 11].contains month then 30
  else 31

/-- The first year that has timestamps. -/
def firstYear : Int := -262143

/-- The last year that has timestamps. -/
def lastYear : Int := 262142

/-- Whether the numbers are those of a day. -/
def isDate (year : Int) (month day : Nat) : Bool :=
  firstYear ≤ year && year ≤ lastYear && 1 ≤ month && month ≤ 12 &&
    1 ≤ day && day ≤ daysInMonth year month

/-- Whether the numbers are those of a time of day. -/
def isTime (hour minute second nanosecond : Nat) : Bool :=
  hour < 24 && minute < 60 && second ≤ 60 && nanosecond < 1000000000

end Timestamp

/-- A point in time, by its civil date and time in UTC. -/
structure Timestamp where
  year : Int
  month : Nat
  day : Nat
  hour : Nat
  minute : Nat
  second : Nat
  nanosecond : Nat
  date_ok : Timestamp.isDate year month day = true
  time_ok : Timestamp.isTime hour minute second nanosecond = true
  deriving DecidableEq

namespace Timestamp

/-- The start of 1970. -/
def epoch : Timestamp := ⟨1970, 1, 1, 0, 0, 0, 0, by decide, by decide⟩

instance : Inhabited Timestamp := ⟨epoch⟩

/-- The timestamp with the given numbers, if they are those of one. -/
def ofFields? (year : Int) (month day hour minute second nanosecond : Nat) : Option Timestamp :=
  if date_ok : isDate year month day = true then
    if time_ok : isTime hour minute second nanosecond = true then
      some ⟨year, month, day, hour, minute, second, nanosecond, date_ok, time_ok⟩
    else none
  else none

/-- The day before, by its numbers. -/
def previousDay (year : Int) (month day : Nat) : Int × Nat × Nat :=
  if 1 < day then (year, month, day - 1)
  else if 1 < month then (year, month - 1, daysInMonth year (month - 1))
  else (year - 1, 12, 31)

/-- The day after, by its numbers. -/
def nextDay (year : Int) (month day : Nat) : Int × Nat × Nat :=
  if day < daysInMonth year month then (year, month, day + 1)
  else if month < 12 then (year, month + 1, 1)
  else (year + 1, 1, 1)

/-- The timestamp of a date and time on a clock that is `offset` minutes ahead of UTC, by less
    than a day. -/
def ofLocal? (year : Int) (month day hour minute second nanosecond : Nat) (offset : Int) :
    Option Timestamp :=
  if isDate year month day && isTime hour minute second nanosecond then
    let minutes : Int := 60 * hour + minute - offset
    -- The offset is less than a day, so at most one midnight lies between.
    let (year, month, day) :=
      if minutes < 0 then previousDay year month day
      else if 1440 ≤ minutes then nextDay year month day
      else (year, month, day)
    let ofDay := (minutes % 1440).toNat
    ofFields? year month day (ofDay / 60) (ofDay % 60) second nanosecond
  else none

/-! ### Printing -/

/-- The digits of a number, with zeros before them up to the given width. -/
def padded (width n : Nat) : List Char :=
  let digits := Nat.toDigits 10 n
  List.replicate (width - digits.length) '0' ++ digits

/-- A year in four digits; a year out of their range in at least four digits after its sign. -/
def yearDigits (year : Int) : List Char :=
  if 0 ≤ year && year ≤ 9999 then padded 4 year.toNat
  else (if year < 0 then '-' else '+') :: padded 4 year.natAbs

/-- The fraction of a second, in the fewest digits of none, three, six and nine. -/
def fraction (nanosecond : Nat) : List Char :=
  if nanosecond = 0 then []
  else if nanosecond % 1000000 = 0 then '.' :: padded 3 (nanosecond / 1000000)
  else if nanosecond % 1000 = 0 then '.' :: padded 6 (nanosecond / 1000)
  else '.' :: padded 9 nanosecond

/-- The text of a timestamp: date, `T`, time and `Z`. -/
def toChars (t : Timestamp) : List Char :=
  yearDigits t.year ++ '-' :: padded 2 t.month ++ '-' :: padded 2 t.day ++
    'T' :: padded 2 t.hour ++ ':' :: padded 2 t.minute ++ ':' :: padded 2 t.second ++
    fraction t.nanosecond ++ ['Z']

/-- The text of a timestamp, as a string. -/
def toText (t : Timestamp) : String := String.ofList t.toChars

end Timestamp

end LargeFiles
