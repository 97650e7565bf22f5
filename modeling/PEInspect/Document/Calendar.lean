/-!
# Calendar values

Dates, times of day and moments as documents write them, with the days of each month and the
standard text: `1979-05-27`, `07:32:00.500000`, `1979-05-27T07:32:00-08:00`.
-/

namespace PEInspect.Document

/-- A day of the proleptic calendar. -/
structure Date where
  year : Nat
  month : Nat
  day : Nat
  deriving Repr, DecidableEq, Inhabited

/-- A time of day to the microsecond. -/
structure Time where
  hour : Nat
  minute : Nat
  second : Nat
  micros : Nat
  deriving Repr, DecidableEq, Inhabited

/-- A number with leading zeros up to a width. -/
def padded (width n : Nat) : String :=
  let digits := Nat.toDigits 10 n
  String.ofList (List.replicate (width - digits.length) '0' ++ digits)

/-- Every fourth year is a leap year, except the hundredths that are not four-hundredths. -/
def isLeapYear (year : Nat) : Bool :=
  year % 4 == 0 && (year % 100 != 0 || year % 400 == 0)

/-- The number of days of a month. -/
def daysInMonth (year month : Nat) : Nat :=
  if month = 2 then (if isLeapYear year then 29 else 28)
  else if month = 4 ∨ month = 6 ∨ month = 9 ∨ month = 11 then 30
  else 31

namespace Date

/-- Whether the day exists; years start at one. -/
def exists? (d : Date) : Bool :=
  1 ≤ d.year && 1 ≤ d.month && d.month ≤ 12 && 1 ≤ d.day && d.day ≤ daysInMonth d.year d.month

/-- The standard text of a date. -/
def text (d : Date) : String :=
  padded 4 d.year ++ "-" ++ padded 2 d.month ++ "-" ++ padded 2 d.day

end Date

namespace Time

/-- The standard text of a time; a fraction is shown in full or not at all. -/
def text (t : Time) : String :=
  let clock := padded 2 t.hour ++ ":" ++ padded 2 t.minute ++ ":" ++ padded 2 t.second
  if t.micros = 0 then clock else clock ++ "." ++ padded 6 t.micros

end Time

/-- The text of an offset from universal time, in minutes. -/
def offsetText (minutes : Int) : String :=
  let size := minutes.natAbs
  (if minutes < 0 then "-" else "+") ++ padded 2 (size / 60) ++ ":" ++ padded 2 (size % 60)

/-- A date, a time and, where it is known, the offset from universal time. -/
structure Moment where
  date : Date
  time : Time
  offset : Option Int
  deriving Repr, DecidableEq, Inhabited

/-- The standard text of a moment. -/
def Moment.text (m : Moment) : String :=
  m.date.text ++ "T" ++ m.time.text ++ (m.offset.map offsetText).getD ""

end PEInspect.Document
