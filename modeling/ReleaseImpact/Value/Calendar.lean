import ReleaseImpact.Text.Digits

/-!
Days of the calendar and moments of a day. Main statements:

- `daysIn_le`: no month has more than 31 days.
- `instant?_isSome`: the moments whose clock is known can be put in order.
-/

namespace ReleaseImpact

structure Date where
  year : Nat
  month : Nat
  day : Nat
  deriving DecidableEq, Repr

def isLeapYear (year : Nat) : Bool := year % 4 == 0 && (year % 100 != 0 || year % 400 == 0)

def daysIn (year month : Nat) : Nat :=
  if month = 2 then (if isLeapYear year then 29 else 28)
  else if month = 4 ∨ month = 6 ∨ month = 9 ∨ month = 11 then 30
  else 31

theorem daysIn_le (year month : Nat) : daysIn year month ≤ 31 := by
  unfold daysIn
  split
  · split <;> omega
  · split <;> omega

/-- A day of one of the years from 1 to 9999. -/
def Date.isValid (d : Date) : Bool :=
  1 ≤ d.year && d.year ≤ 9999 && 1 ≤ d.month && d.month ≤ 12 && 1 ≤ d.day &&
    d.day ≤ daysIn d.year d.month

/-- The number of days from the first day of the first year, which is day one. -/
def Date.dayNumber (d : Date) : Nat :=
  let years := d.year - 1
  years * 365 + years / 4 - years / 100 + years / 400 +
    (List.range' 1 (d.month - 1)).foldl (fun n month => n + daysIn d.year month) 0 + d.day

def Date.text (d : Date) : String :=
  Text.paddedDecimal 4 d.year ++ "-" ++ Text.paddedDecimal 2 d.month ++ "-" ++
    Text.paddedDecimal 2 d.day

/-- A time of a day, with the minutes by which the local clock is ahead where they are known. -/
structure Moment where
  date : Date
  hour : Nat
  minute : Nat
  second : Nat
  microsecond : Nat
  offset : Option Int
  deriving DecidableEq, Repr

def Moment.isValid (m : Moment) : Bool :=
  m.date.isValid && m.hour < 24 && m.minute < 60 && m.second < 60 && m.microsecond < 1000000 &&
    m.offset.all fun o => o.natAbs < 24 * 60

/-- The microseconds of the common clock up to a moment whose local clock is known. -/
def Moment.instant? (m : Moment) : Option Int :=
  m.offset.map fun ahead =>
    let minutes : Int := (m.date.dayNumber * 24 + m.hour) * 60 + m.minute
    ((minutes - ahead) * 60 + m.second) * 1000000 + m.microsecond

theorem instant?_isSome (m : Moment) : m.instant?.isSome = m.offset.isSome := by
  simp [Moment.instant?]

def offsetText (offset : Int) : String :=
  (if offset < 0 then "-" else "+") ++ Text.paddedDecimal 2 (offset.natAbs / 60) ++ ":" ++
    Text.paddedDecimal 2 (offset.natAbs % 60)

def Moment.text (m : Moment) : String :=
  m.date.text ++ " " ++ Text.paddedDecimal 2 m.hour ++ ":" ++ Text.paddedDecimal 2 m.minute ++ ":" ++
    Text.paddedDecimal 2 m.second ++
    (if m.microsecond = 0 then "" else "." ++ Text.paddedDecimal 6 m.microsecond) ++
    (m.offset.elim "" offsetText)

end ReleaseImpact
