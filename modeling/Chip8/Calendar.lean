/-!
Days and moments of the calendar that has had its present leap years since
year one.  A moment may know how far its clock is ahead of universal time;
moments that know it are told apart by the instant they stand for.
-/

namespace Chip8.Calendar

def isLeap (year : Nat) : Bool :=
  year % 4 = 0 && (year % 100 != 0 || year % 400 = 0)

def monthLengths (year : Nat) : List Nat :=
  [31, if isLeap year then 29 else 28, 31, 30, 31, 30, 31, 31, 30, 31, 30, 31]

/-- The number of days in a month, which counts from one. -/
def daysIn (year month : Nat) : Nat :=
  (monthLengths year).getD (month - 1) 0

def IsDate (year month day : Nat) : Prop :=
  (1 ≤ year ∧ year ≤ 9999) ∧ (1 ≤ month ∧ month ≤ 12) ∧ 1 ≤ day ∧ day ≤ daysIn year month

instance (year month day : Nat) : Decidable (IsDate year month day) :=
  inferInstanceAs (Decidable (_ ∧ _))

/-- A day of the calendar. -/
structure Date where
  year : Nat
  month : Nat
  day : Nat
  isDate : IsDate year month day
  deriving DecidableEq, Repr

def padded (width value : Nat) : String :=
  let digits := Nat.toDigits 10 value
  String.ofList (List.replicate (width - digits.length) '0' ++ digits)

def listed (values : List Nat) : String :=
  ", ".intercalate (values.map toString)

namespace Date

/-- The day that numbers name, if they name one. -/
def of? (year month day : Nat) : Option Date :=
  if isDate : IsDate year month day then some ⟨year, month, day, isDate⟩ else none

/-- The number of days up to a day, from the first day of year one on. -/
def ordinal (date : Date) : Nat :=
  let years := date.year - 1
  let months := (monthLengths date.year).take (date.month - 1)
  months.foldl Nat.add (365 * years + years / 4 - years / 100 + years / 400) + date.day

def text (date : Date) : String :=
  padded 4 date.year ++ "-" ++ padded 2 date.month ++ "-" ++ padded 2 date.day

def quoted (date : Date) : String :=
  "datetime.date(" ++ listed [date.year, date.month, date.day] ++ ")"

end Date

def minutesInDay : Nat := 1440

/-- Whether numbers name a time of day and, maybe, a distance from universal time. -/
def IsTime (hour minute second microsecond : Nat) (ahead : Option Int) : Prop :=
  (hour < 24 ∧ minute < 60) ∧ (second < 60 ∧ microsecond < 1000000) ∧
    (ahead.getD 0).natAbs < minutesInDay

instance (hour minute second microsecond : Nat) (ahead : Option Int) :
    Decidable (IsTime hour minute second microsecond ahead) :=
  inferInstanceAs (Decidable (_ ∧ _))

/-- A day and a time of day. -/
structure Moment where
  date : Date
  hour : Nat
  minute : Nat
  second : Nat
  microsecond : Nat
  /-- The minutes that the clock is ahead of universal time, if that is known. -/
  ahead : Option Int
  isTime : IsTime hour minute second microsecond ahead
  deriving DecidableEq, Repr

namespace Moment

/-- The moment that numbers name, if they name one. -/
def of? (date : Date) (hour minute second microsecond : Nat) (ahead : Option Int) :
    Option Moment :=
  if isTime : IsTime hour minute second microsecond ahead then
    some ⟨date, hour, minute, second, microsecond, ahead, isTime⟩
  else
    none

/-- The microseconds up to a moment in universal time, if its distance from it is known. -/
def instant? (moment : Moment) : Option Int :=
  moment.ahead.map fun ahead =>
    let minutes : Int :=
      minutesInDay * moment.date.ordinal + (60 * moment.hour + moment.minute : Nat) - ahead
    (60 * minutes + moment.second) * 1000000 + moment.microsecond

/-- Whether two moments are the same: by the instant if both know it. -/
def same (left right : Moment) : Bool :=
  match left.instant?, right.instant? with
  | some left, some right => left = right
  | _, _ => left = right

def aheadText (minutes : Int) : String :=
  (if minutes < 0 then "-" else "+") ++ padded 2 (minutes.natAbs / 60) ++ ":" ++
    padded 2 (minutes.natAbs % 60)

/-- The moment in a message; a fraction of a second is shown if there is one. -/
def text (moment : Moment) : String :=
  moment.date.text ++ " " ++ padded 2 moment.hour ++ ":" ++ padded 2 moment.minute ++ ":" ++
    padded 2 moment.second ++
    (if moment.microsecond = 0 then "" else "." ++ padded 6 moment.microsecond) ++
    ((moment.ahead.map aheadText).getD "")

/-- A distance from universal time where it can be told from a text. -/
def quotedAhead (minutes : Int) : String :=
  if minutes = 0 then "datetime.timezone.utc"
  else
    let days := if minutes < 0 then "days=-1, " else ""
    "datetime.timezone(datetime.timedelta(" ++ days ++ "seconds=" ++
      toString (60 * minutes % 86400) ++ "))"

/-- The moment where it can be told from a text; a time ends with its last part that counts. -/
def quoted (moment : Moment) : String :=
  let fine :=
    if moment.microsecond != 0 then [moment.second, moment.microsecond]
    else if moment.second != 0 then [moment.second]
    else []
  "datetime.datetime(" ++
    listed ([moment.date.year, moment.date.month, moment.date.day, moment.hour, moment.minute] ++
      fine) ++
    ((moment.ahead.map fun minutes => ", tzinfo=" ++ quotedAhead minutes).getD "") ++ ")"

end Moment

end Chip8.Calendar
