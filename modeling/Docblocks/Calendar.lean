import Docblocks.Number.Shortest
import Docblocks.Text.Layout

/-!
Dates and moments of the Gregorian calendar, with an optional distance from universal time.
-/

set_option autoImplicit false
set_option relaxedAutoImplicit false

namespace Docblocks.Calendar

open Docblocks.Text (padNat join)
open Docblocks.Number (natText intText)

/-- A day. -/
structure Date where
  year : Nat
  month : Nat
  day : Nat
  deriving DecidableEq, Repr

/-- A time of a day, in minutes from universal time where that is known. -/
structure Moment where
  date : Date
  hour : Nat
  minute : Nat
  second : Nat
  micros : Nat
  offset? : Option Int
  deriving DecidableEq, Repr

/-- Which part of a date or moment is out of range. -/
inductive Fault
  | year
  | month
  | day
  | hour
  | minute
  | second
  | offset (minutes : Int)
  deriving DecidableEq, Repr

/-- Whether a year has a leap day. -/
def isLeap (year : Nat) : Bool :=
  year % 4 == 0 && (year % 100 != 0 || year % 400 == 0)

/-- The number of days of a month. -/
def daysInMonth (year month : Nat) : Nat :=
  if month == 2 then (if isLeap year then 29 else 28)
  else if month == 4 || month == 6 || month == 9 || month == 11 then 30
  else 31

/-- A date, if its parts are in range. -/
def Date.of (year month day : Nat) : Except Fault Date :=
  if year = 0 then .error .year
  else if month = 0 || 12 < month then .error .month
  else if day = 0 || daysInMonth year month < day then .error .day
  else .ok ⟨year, month, day⟩

/-- A moment, if its parts are in range. -/
def Moment.of (year month day hour minute second micros : Nat) (offset? : Option Int) :
    Except Fault Moment :=
  match Date.of year month day with
  | .error f => .error f
  | .ok d =>
    if 24 ≤ hour then .error .hour
    else if 60 ≤ minute then .error .minute
    else if 60 ≤ second then .error .second
    else .ok ⟨d, hour, minute, second, micros, offset?⟩

/-- An offset in minutes, if it is shorter than a day. -/
def offsetOf (minutes : Int) : Except Fault Int :=
  if -1440 < minutes && minutes < 1440 then .ok minutes else .error (.offset minutes)

/-- Days since the start of the calendar. -/
def Date.dayNumber (d : Date) : Nat :=
  let y := d.year - 1
  365 * y + y / 4 - y / 100 + y / 400 +
    (List.range (d.month - 1)).foldl (fun n m => n + daysInMonth d.year (m + 1)) d.day

/-- Microseconds of universal time since the start of the calendar, for a known offset. -/
def Moment.instant (m : Moment) (offset : Int) : Int :=
  ((((m.date.dayNumber * 24 + m.hour : Nat) : Int) * 60 + m.minute - offset) * 60 + m.second) *
    1000000 + m.micros

/-- Two moments are the same instant; one with an offset is never the same as one without. -/
def Moment.same (a b : Moment) : Bool :=
  match a.offset?, b.offset? with
  | some x, some y => a.instant x == b.instant y
  | none, none => a == b
  | _, _ => false

/-- A date in year, month and day. -/
def Date.written (d : Date) : Text :=
  join "-".points [padNat 4 d.year, padNat 2 d.month, padNat 2 d.day]

/-- An offset in hours and minutes with a sign. -/
def offsetWritten (minutes : Int) : Text :=
  (if minutes < 0 then "-".points else "+".points) ++
    join ":".points [padNat 2 (minutes.natAbs / 60), padNat 2 (minutes.natAbs % 60)]

/-- A moment in date and time; microseconds are written when there are any. -/
def Moment.written (m : Moment) : Text :=
  m.date.written ++ " ".points ++
    join ":".points [padNat 2 m.hour, padNat 2 m.minute, padNat 2 m.second] ++
    (if m.micros = 0 then [] else ".".points ++ padNat 6 m.micros) ++
    match m.offset? with
    | some o => offsetWritten o
    | none => []

/-- A name applied to its arguments. -/
def applied (name : String) (args : List Text) : Text :=
  name.points ++ "(".points ++ join ", ".points args ++ ")".points

/-- A length of time in days and seconds. -/
def spanLiteral (minutes : Int) : Text :=
  let days := minutes.fdiv 1440
  let seconds := minutes.fmod 1440 * 60
  if minutes = 0 then applied "datetime.timedelta" ["0".points]
  else
    applied "datetime.timedelta"
      ((if days = 0 then [] else ["days=".points ++ intText days]) ++
        if seconds = 0 then [] else ["seconds=".points ++ intText seconds])

/-- A date as it stands inside a list or a mapping. -/
def Date.literal (d : Date) : Text :=
  applied "datetime.date" [natText d.year, natText d.month, natText d.day]

/-- An offset as it stands inside a list or a mapping. -/
def offsetLiteral (minutes : Int) : Text :=
  if minutes = 0 then "datetime.timezone.utc".points
  else applied "datetime.timezone" [spanLiteral minutes]

/-- A moment as it stands inside a list or a mapping; seconds and microseconds of zero at the end
are left out. -/
def Moment.literal (m : Moment) : Text :=
  let time :=
    if m.micros ≠ 0 then [m.second, m.micros] else if m.second ≠ 0 then [m.second] else []
  applied "datetime.datetime"
    (([m.date.year, m.date.month, m.date.day, m.hour, m.minute] ++ time).map natText ++
      match m.offset? with
      | some o => ["tzinfo=".points ++ offsetLiteral o]
      | none => [])

/-- The wording of a range fault. -/
def Fault.message : Fault → Text
  | .year => "year 0 is out of range".points
  | .month => "month must be in 1..12".points
  | .day => "day is out of range for month".points
  | .hour => "hour must be in 0..23".points
  | .minute => "minute must be in 0..59".points
  | .second => "second must be in 0..59".points
  | .offset minutes =>
    ("offset must be a timedelta strictly between -timedelta(hours=24) and ".points ++
      "timedelta(hours=24), not ".points) ++ spanLiteral minutes ++ ".".points

end Docblocks.Calendar
