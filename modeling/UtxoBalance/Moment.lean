/-!
# Dates and times

A moment is a day of the calendar, or a day with a time and perhaps with the distance
of the local time from universal time. Days are those of the Gregorian calendar in the
years from 1 to 9999.

## Main definitions

- `Moment` — a day, or a day with a time
- `Moment.Fault` — why some numbers name no moment
- `Day.of?`, `Clock.of?` — the day and the time that some numbers name
- `Moment.shown` — the one-line form of a moment
- `Moment.same` — whether two moments are the same point in time
-/

namespace UtxoBalance

namespace Moment

/-- Why some numbers name no moment. -/
inductive Fault
  /-- No year has this number. -/
  | year (got : Nat)
  /-- No month has the number. -/
  | month
  /-- The month has no such day. -/
  | day
  /-- The day has no such hour. -/
  | hour
  /-- The hour has no such minute. -/
  | minute
  /-- The minute has no such second. -/
  | second
  /-- Local time is this many minutes away from universal time, a day or more. -/
  | distance (minutes : Int)
  deriving DecidableEq, Repr

/-- The one-line form of a number of minutes, in days and seconds. -/
def shownSpan (minutes : Int) : String :=
  let days := minutes.fdiv 1440
  let seconds := minutes.fmod 1440 * 60
  let parts := (if days = 0 then [] else ["days=" ++ toString days]) ++
    (if seconds = 0 then [] else ["seconds=" ++ toString seconds])
  "datetime.timedelta(" ++ (if parts.isEmpty then "0" else ", ".intercalate parts) ++ ")"

/-- The wording of a fault. -/
def Fault.message : Fault → String
  | .year got => "year " ++ toString got ++ " is out of range"
  | .month => "month must be in 1..12"
  | .day => "day is out of range for month"
  | .hour => "hour must be in 0..23"
  | .minute => "minute must be in 0..59"
  | .second => "second must be in 0..59"
  | .distance minutes =>
    "offset must be a timedelta strictly between -timedelta(hours=24) and " ++
      "timedelta(hours=24), not " ++ shownSpan minutes ++ "."

end Moment

/-! ### Days -/

/-- A day of the calendar. -/
structure Day where
  /-- The year, from 1 to 9999. -/
  year : Nat
  /-- The month, from 1 to 12. -/
  month : Nat
  /-- The day of the month, from 1 on. -/
  day : Nat
  deriving DecidableEq, Repr

namespace Day

/-- Whether a year has a day more than others. -/
def isLeap (year : Nat) : Bool :=
  year % 4 == 0 && (year % 100 != 0 || year % 400 == 0)

/-- The number of days in a month. -/
def inMonth (year month : Nat) : Nat :=
  if month == 2 then (if isLeap year then 29 else 28)
  else if [4, 6, 9, 11].contains month then 30
  else 31

/-- The day that three numbers name. -/
def of? (year month day : Nat) : Except Moment.Fault Day :=
  if year < 1 || 9999 < year then .error (.year year)
  else if month < 1 || 12 < month then .error .month
  else if day < 1 || inMonth year month < day then .error .day
  else .ok { year, month, day }

/-- The number of days in the first months of a year. -/
def inMonths (year : Nat) : (months : Nat) → Nat
  | 0 => 0
  | months + 1 => inMonths year months + inMonth year (months + 1)

/-- The number of days before a day, since the first of all. -/
def number (d : Day) : Nat :=
  let years := d.year - 1
  365 * years + years / 4 - years / 100 + years / 400 + inMonths d.year (d.month - 1) +
    (d.day - 1)

end Day

/-! ### Times -/

/-- A time of the day. -/
structure Clock where
  /-- The hour, below 24. -/
  hour : Nat
  /-- The minute, below 60. -/
  minute : Nat
  /-- The second, below 60. -/
  second : Nat
  /-- The millionths of a second. -/
  micro : Nat
  deriving DecidableEq, Repr

namespace Clock

/-- The time that four numbers name. -/
def of? (hour minute second micro : Nat) : Except Moment.Fault Clock :=
  if 23 < hour then .error .hour
  else if 59 < minute then .error .minute
  else if 59 < second then .error .second
  else .ok { hour, minute, second, micro }

/-- The numbers of a time, without those at the end that need not be shown. -/
def numbers (t : Clock) : List Nat :=
  if t.micro != 0 then [t.hour, t.minute, t.second, t.micro]
  else if t.second != 0 then [t.hour, t.minute, t.second]
  else [t.hour, t.minute]

end Clock

/-! ### Moments -/

/-- A day, or a day with a time. -/
inductive Moment
  /-- A day. -/
  | day (day : Day)
  /-- A time on a day, and the minutes by which it is ahead of universal time, if they
      are known. -/
  | time (day : Day) (clock : Clock) (ahead : Option Int)
  deriving DecidableEq, Repr

namespace Moment

/-- A distance from universal time, which is less than a day. -/
def distance? (minutes : Int) : Except Fault Int :=
  if minutes.natAbs < 1440 then .ok minutes else .error (.distance minutes)

/-- The word messages use for the kind of a moment. -/
def kind : Moment → String
  | .day _ => "datetime.date"
  | .time .. => "datetime.datetime"

/-- The one-line form of a distance from universal time. -/
def shownZone (minutes : Int) : String :=
  if minutes = 0 then "datetime.timezone.utc"
  else "datetime.timezone(" ++ shownSpan minutes ++ ")"

/-- The one-line form of a moment. -/
def shown (m : Moment) : String :=
  let dayNumbers := fun (d : Day) => [d.year, d.month, d.day].map toString
  let parts := match m with
    | .day d => dayNumbers d
    | .time d t ahead =>
      dayNumbers d ++ t.numbers.map toString ++
        (ahead.map fun minutes => "tzinfo=" ++ shownZone minutes).toList
  m.kind ++ "(" ++ ", ".intercalate parts ++ ")"

/-- The millionths of a second since the first of all days in universal time. -/
def instant (d : Day) (t : Clock) (ahead : Int) : Int :=
  let minutes : Int := (d.number * 24 + t.hour) * 60 + t.minute
  ((minutes - ahead) * 60 + t.second) * 1000000 + t.micro

/-- Whether two moments are the same. Times whose distance from universal time is
    known are compared there. -/
def same : Moment → Moment → Bool
  | .time d t (some ahead), .time d' t' (some ahead') =>
    instant d t ahead == instant d' t' ahead'
  | a, b => decide (a = b)

end Moment

end UtxoBalance
