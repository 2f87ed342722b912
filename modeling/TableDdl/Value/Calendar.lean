/-!
# Dates and moments

Days of the proleptic Gregorian calendar and moments with an optional distance from universal
time, with the two texts that each of them has: the plain one and the literal one.
-/

namespace TableDdl

/-- A day of the calendar. -/
structure Date where
  year : Nat
  month : Nat
  day : Nat
  deriving DecidableEq, Repr

/-- A time of day on a day, with the distance from universal time in minutes if it is known. -/
structure Moment where
  date : Date
  hour : Nat
  minute : Nat
  second : Nat
  microsecond : Nat
  offset : Option Int
  deriving DecidableEq, Repr

/-- What is wrong with the parts of a date or a time. -/
inductive CalendarError where
  | year (n : Nat)
  | month
  | day
  | hour
  | minute
  | second
  /-- A distance from universal time of a day or more, in minutes. -/
  | offset (minutes : Int)
  deriving DecidableEq, Repr

namespace Date

/-- Whether the year has a leap day. -/
def isLeap (year : Nat) : Bool :=
  year % 4 == 0 && (year % 100 != 0 || year % 400 == 0)

/-- The lengths of the months. -/
def monthLengths (year : Nat) : List Nat :=
  [31, if isLeap year then 29 else 28, 31, 30, 31, 30, 31, 31, 30, 31, 30, 31]

/-- The day with the given parts, if there is one. -/
def ofParts (year month day : Nat) : Except CalendarError Date :=
  if year < 1 ∨ 9999 < year then .error (.year year)
  else
    match month, (monthLengths year)[month - 1]? with
    | _ + 1, some length =>
      if 1 ≤ day ∧ day ≤ length then .ok ⟨year, month, day⟩ else .error .day
    | _, _ => .error .month

/-- The number of the day, counted from the first day of the year 1. -/
def ordinal (d : Date) : Nat :=
  let y := d.year - 1
  let months := (monthLengths d.year).take (d.month - 1)
  y * 365 + y / 4 - y / 100 + y / 400 + months.foldl (· + ·) 0 + d.day

end Date

/-- A number in decimal digits, at least `width` of them. -/
def paddedText (width n : Nat) : String :=
  let digits := Nat.toDigits 10 n
  String.ofList (List.replicate (width - digits.length) '0' ++ digits)

namespace Date

/-- The day as `year-month-day`. -/
def text (d : Date) : String :=
  paddedText 4 d.year ++ "-" ++ paddedText 2 d.month ++ "-" ++ paddedText 2 d.day

/-- The day as a literal. -/
def literal (d : Date) : String :=
  "datetime.date(" ++ toString d.year ++ ", " ++ toString d.month ++ ", " ++ toString d.day ++ ")"

end Date

namespace Moment

/-- The moment with the given parts, if there is one. -/
def ofParts (date : Date) (hour minute second microsecond : Nat) (offset : Option Int) :
    Except CalendarError Moment :=
  if hour > 23 then .error .hour
  else if minute > 59 then .error .minute
  else if second > 59 then .error .second
  else .ok ⟨date, hour, minute, second, microsecond, offset⟩

/-- The distance of the clock from the first midnight, in microseconds. -/
def clock (t : Moment) : Int :=
  (((t.date.ordinal * 24 + t.hour) * 60 + t.minute) * 60 + t.second) * 1000000 + t.microsecond

/-- The point in time that a moment with a known offset denotes, in microseconds. -/
def instant? (t : Moment) : Option Int :=
  t.offset.map fun minutes => t.clock - minutes * 60000000

/-- The offset as a sign, hours and minutes. -/
def offsetText (minutes : Int) : String :=
  let sign := if minutes < 0 then "-" else "+"
  sign ++ paddedText 2 (minutes.natAbs / 60) ++ ":" ++ paddedText 2 (minutes.natAbs % 60)

/-- The moment as date and time. Microseconds are shown only if there are any. -/
def text (t : Moment) : String :=
  let time := paddedText 2 t.hour ++ ":" ++ paddedText 2 t.minute ++ ":" ++ paddedText 2 t.second
  let fraction := if t.microsecond = 0 then "" else "." ++ paddedText 6 t.microsecond
  let zone :=
    match t.offset with
    | some minutes => offsetText minutes
    | none => ""
  t.date.text ++ " " ++ time ++ fraction ++ zone

/-- A span of minutes as a literal: whole days, rounded down, and seconds. -/
def spanLiteral (minutes : Int) : String :=
  let days := Int.fdiv minutes 1440
  let seconds := Int.fmod minutes 1440 * 60
  let parts := (if days = 0 then [] else ["days=" ++ toString days]) ++
    (if seconds = 0 then [] else ["seconds=" ++ toString seconds])
  "datetime.timedelta(" ++ (if parts.isEmpty then "0" else ", ".intercalate parts) ++ ")"

/-- An offset as a literal. -/
def offsetLiteral (minutes : Int) : String :=
  if minutes = 0 then "datetime.timezone.utc"
  else "datetime.timezone(" ++ spanLiteral minutes ++ ")"

/-- The moment as a literal. Microseconds, and then seconds, are left out where they are zero. -/
def literal (t : Moment) : String :=
  let tail :=
    if t.microsecond ≠ 0 then [t.second, t.microsecond]
    else if t.second ≠ 0 then [t.second] else []
  let parts := [t.date.year, t.date.month, t.date.day, t.hour, t.minute] ++ tail
  let zone :=
    match t.offset with
    | some minutes => [("tzinfo=" ++ offsetLiteral minutes)]
    | none => []
  "datetime.datetime(" ++ ", ".intercalate (parts.map (fun n => toString n) ++ zone) ++ ")"

end Moment

/-- The text of a calendar error. -/
def CalendarError.message : CalendarError → String
  | .year n => "year " ++ toString n ++ " is out of range"
  | .month => "month must be in 1..12"
  | .day => "day is out of range for month"
  | .hour => "hour must be in 0..23"
  | .minute => "minute must be in 0..59"
  | .second => "second must be in 0..59"
  | .offset minutes =>
    "offset must be a timedelta strictly between -timedelta(hours=24) and timedelta(hours=24), " ++
      "not " ++ Moment.spanLiteral minutes ++ "."

end TableDdl
