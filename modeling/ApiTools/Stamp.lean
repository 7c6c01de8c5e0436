/-!
# Calendar stamps

A document may hold days and moments. A moment is a day with a time of day and, optionally, how
far that clock is ahead of universal time.

## Main definitions

* `Stamp` — a day or a moment.
* `Stamp.day?`, `Stamp.moment?` — stamps with their ranges checked.
* `Stamp.toText`, `Stamp.toLiteral` — `2024-01-31` and its spelling as an expression.
-/

namespace ApiTools

/-- A day of the calendar. -/
structure Day where
  /-- The year, from 1 to 9999. -/
  year : Nat
  /-- The month, from 1. -/
  month : Nat
  /-- The day of the month, from 1. -/
  day : Nat
  deriving DecidableEq, Inhabited

/-- A time of day. -/
structure Clock where
  /-- The hour, from 0 to 23. -/
  hour : Nat
  /-- The minute. -/
  minute : Nat
  /-- The second. -/
  second : Nat
  /-- Millionths of a second. -/
  micro : Nat
  deriving DecidableEq, Inhabited

/-- A day, or a moment with the minutes its clock is ahead of universal time. -/
inductive Stamp where
  /-- A whole day. -/
  | day (day : Day)
  /-- A time on a day. -/
  | moment (day : Day) (clock : Clock) (ahead : Option Int)
  deriving DecidableEq, Inhabited

/-- Why numbers do not make a stamp. -/
inductive StampFault where
  /-- There is no such year. -/
  | year (given : Nat)
  /-- There is no such month. -/
  | month
  /-- The month has no such day. -/
  | day
  /-- There is no such hour. -/
  | hour
  /-- There is no such minute. -/
  | minute
  /-- There is no such second. -/
  | second
  /-- The clock is a day or more from universal time. -/
  | ahead (minutes : Int)
  deriving DecidableEq

namespace Day

/-- Every fourth year has a leap day, a century only every fourth time. -/
def isLeap (year : Nat) : Bool :=
  year % 4 == 0 && (year % 100 != 0 || year % 400 == 0)

/-- The number of days in a month. -/
def monthLength (year month : Nat) : Nat :=
  if month = 2 then (if isLeap year then 29 else 28)
  else if month ∈ [4, 6, 9, 11] then 30 else 31

/-- The number of days from the start of the calendar. -/
def ordinal (d : Day) : Nat :=
  let past := d.year - 1
  let months := (List.range (d.month - 1)).map fun m => monthLength d.year (m + 1)
  past * 365 + past / 4 - past / 100 + past / 400 + months.foldl Nat.add d.day

end Day

/-- A number with zeros in front, up to a width. -/
def padded (width n : Nat) : String :=
  let digits := toString n
  String.ofList (List.replicate (width - digits.length) '0') ++ digits

namespace Stamp

/-- The day of the given numbers. -/
def day? (year month dayNumber : Nat) : Except StampFault Day :=
  if year = 0 ∨ 9999 < year then .error (.year year)
  else if month = 0 ∨ 12 < month then .error .month
  else if dayNumber = 0 ∨ Day.monthLength year month < dayNumber then .error .day
  else .ok ⟨year, month, dayNumber⟩

/-- The moment of the given numbers. -/
def moment? (year month dayNumber : Nat) (clock : Clock) (ahead : Option Int) :
    Except StampFault Stamp := do
  if let some minutes := ahead then
    if 1440 ≤ minutes.natAbs then throw (.ahead minutes)
  let date ← day? year month dayNumber
  if 23 < clock.hour then throw .hour
  if 59 < clock.minute then throw .minute
  if 59 < clock.second then throw .second
  return .moment date clock ahead

/-- Minutes since the start of the calendar in universal time, with the rest below a minute. -/
def instant (d : Day) (c : Clock) (ahead : Int) : Int × Nat × Nat :=
  ((d.ordinal * 1440 + c.hour * 60 + c.minute : Nat) - ahead, c.second, c.micro)

/-- Whether two stamps are one day, or one moment whatever the clocks. -/
def same : Stamp → Stamp → Bool
  | .day d, .day e => d == e
  | .moment d c (some a), .moment e k (some b) => instant d c a == instant e k b
  | .moment d c none, .moment e k none => d == e && c == k
  | _, _ => false

/-- The text of a day. -/
def dayText (d : Day) : String :=
  padded 4 d.year ++ "-" ++ padded 2 d.month ++ "-" ++ padded 2 d.day

/-- The text of a distance from universal time. -/
def aheadText (minutes : Int) : String :=
  (if minutes < 0 then "-" else "+")
    ++ padded 2 (minutes.natAbs / 60) ++ ":" ++ padded 2 (minutes.natAbs % 60)

/-- The text of a stamp; a fraction of a second has six digits. -/
def toText : Stamp → String
  | .day d => dayText d
  | .moment d c ahead =>
    dayText d ++ " " ++ padded 2 c.hour ++ ":" ++ padded 2 c.minute ++ ":" ++ padded 2 c.second
      ++ (if c.micro = 0 then "" else "." ++ padded 6 c.micro)
      ++ (ahead.map aheadText).getD ""

/-- A span of minutes as an expression, in whole days downwards and seconds. -/
def spanLiteral (minutes : Int) : String :=
  let days := minutes.fdiv 1440
  let seconds := minutes.fmod 1440 * 60
  let parts := (if days = 0 then [] else ["days=" ++ toString days])
    ++ (if seconds = 0 then [] else ["seconds=" ++ toString seconds])
  "datetime.timedelta(" ++ ", ".intercalate parts ++ ")"

/-- A stamp as an expression; seconds and their fraction are left out where they are zero. -/
def toLiteral : Stamp → String
  | .day d =>
    "datetime.date(" ++ ", ".intercalate ([d.year, d.month, d.day].map toString) ++ ")"
  | .moment d c ahead =>
    let clock := [d.year, d.month, d.day, c.hour, c.minute]
      ++ (if c.micro ≠ 0 then [c.second, c.micro] else if c.second ≠ 0 then [c.second] else [])
    let zone := match ahead with
      | none => []
      | some 0 => ["tzinfo=datetime.timezone.utc"]
      | some minutes => ["tzinfo=datetime.timezone(" ++ spanLiteral minutes ++ ")"]
    "datetime.datetime(" ++ ", ".intercalate (clock.map toString ++ zone) ++ ")"

end Stamp

/-- The message of a fault. -/
def StampFault.message : StampFault → String
  | .year given => "year " ++ toString given ++ " is out of range"
  | .month => "month must be in 1..12"
  | .day => "day is out of range for month"
  | .hour => "hour must be in 0..23"
  | .minute => "minute must be in 0..59"
  | .second => "second must be in 0..59"
  | .ahead minutes =>
    "offset must be a timedelta strictly between -timedelta(hours=24) and timedelta(hours=24), not "
      ++ Stamp.spanLiteral minutes ++ "."

end ApiTools
