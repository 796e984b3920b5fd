import ThemeLint.Text.Digit

set_option autoImplicit false

namespace ThemeLint.Calendar

structure Date where
  year : Nat
  month : Nat
  day : Nat
  deriving DecidableEq, Repr

structure Clock where
  hour : Nat
  minute : Nat
  second : Nat
  micro : Nat
  deriving DecidableEq, Repr

/-- A date and a time, with the minutes it is ahead of universal time where they are known. -/
structure Moment where
  date : Date
  clock : Clock
  ahead : Option Int
  deriving DecidableEq, Repr

inductive Fault where
  | year (n : Nat)
  | month
  | day
  | hour
  | minute
  | second
  | offset (minutes : Int)
  deriving DecidableEq, Repr

/-- A span of time as whole days and the seconds left over. -/
def spanText (minutes : Int) : String :=
  let days := minutes / 1440
  let seconds := minutes % 1440 * 60
  if seconds = 0 then s!"datetime.timedelta(days={days})"
  else s!"datetime.timedelta(days={days}, seconds={seconds})"

def Fault.message : Fault → String
  | .year n => s!"year {n} is out of range"
  | .month => "month must be in 1..12"
  | .day => "day is out of range for month"
  | .hour => "hour must be in 0..23"
  | .minute => "minute must be in 0..59"
  | .second => "second must be in 0..59"
  | .offset minutes =>
    "offset must be a timedelta strictly between -timedelta(hours=24) and timedelta(hours=24), not " ++
      spanText minutes ++ "."

def isLeap (year : Nat) : Bool := year % 4 == 0 && (year % 100 != 0 || year % 400 == 0)

def daysIn (year month : Nat) : Nat :=
  if month = 2 then if isLeap year then 29 else 28
  else if month = 4 ∨ month = 6 ∨ month = 9 ∨ month = 11 then 30
  else 31

def date (year month day : Nat) : Except Fault Date :=
  if year = 0 ∨ 9999 < year then .error (.year year)
  else if month = 0 ∨ 12 < month then .error .month
  else if day = 0 ∨ daysIn year month < day then .error .day
  else .ok ⟨year, month, day⟩

def clock (hour minute second micro : Nat) : Except Fault Clock :=
  if 23 < hour then .error .hour
  else if 59 < minute then .error .minute
  else if 59 < second then .error .second
  else .ok ⟨hour, minute, second, micro⟩

def offset (minutes : Int) : Except Fault Int :=
  if 1440 ≤ minutes.natAbs then .error (.offset minutes) else .ok minutes

def Date.ordinal (d : Date) : Nat :=
  let y := d.year - 1
  let leapDays := y / 4 - y / 100 + y / 400
  (List.range (d.month - 1)).foldl (fun n m => n + daysIn d.year (m + 1)) (365 * y + leapDays) + d.day

/-- Microseconds on the clock's own wall, from the year 1. -/
def Moment.wall (m : Moment) : Int :=
  ((((m.date.ordinal * 24 + m.clock.hour) * 60 + m.clock.minute) * 60 + m.clock.second) * 1000000 +
    m.clock.micro : Nat)

/-- Moments that know universal time fall together there; the others must agree on the wall. -/
def Moment.same (m n : Moment) : Bool :=
  match m.ahead, n.ahead with
  | some a, some b => m.wall - a * 60000000 == n.wall - b * 60000000
  | none, none => m.wall == n.wall
  | _, _ => false

def digits (width n : Nat) : String := String.ofList (Text.paddedDecimal width n)

def Date.text (d : Date) : String := s!"{digits 4 d.year}-{digits 2 d.month}-{digits 2 d.day}"

def Clock.text (c : Clock) : String :=
  let whole := s!"{digits 2 c.hour}:{digits 2 c.minute}:{digits 2 c.second}"
  if c.micro = 0 then whole else whole ++ "." ++ digits 6 c.micro

def offsetText (minutes : Int) : String :=
  let sign := if minutes < 0 then "-" else "+"
  s!"{sign}{digits 2 (minutes.natAbs / 60)}:{digits 2 (minutes.natAbs % 60)}"

def Moment.text (m : Moment) : String :=
  m.date.text ++ " " ++ m.clock.text ++ match m.ahead with
    | some minutes => offsetText minutes
    | none => ""

end ThemeLint.Calendar
