/-! The proleptic Gregorian calendar: days counted from 1 January of the year 0. -/
namespace DataMatch

structure Date where
  year : Int
  month : Nat
  day : Nat
deriving DecidableEq, Repr

namespace Date

def isLeap (year : Int) : Bool := year % 4 == 0 && (year % 100 != 0 || year % 400 == 0)

def daysBeforeYear (year : Int) : Int :=
  365 * year + (year + 3) / 4 - (year + 99) / 100 + (year + 399) / 400

def daysInMonth (year : Int) (month : Nat) : Nat :=
  match month with
  | 2 => if isLeap year then 29 else 28
  | 4 | 6 | 9 | 11 => 30
  | _ => 31

def daysBeforeMonth (year : Int) : Nat → Nat
  | 0 => 0
  | 1 => 0
  | month + 2 => daysBeforeMonth year (month + 1) + daysInMonth year (month + 1)

def isValid (d : Date) : Bool :=
  1 ≤ d.month && d.month ≤ 12 && 1 ≤ d.day && d.day ≤ daysInMonth d.year d.month

def ordinal (d : Date) : Nat := daysBeforeMonth d.year d.month + d.day

def toDays (d : Date) : Int := daysBeforeYear d.year + d.ordinal - 1

/-- The year of a day. A year has 146097 / 400 days on average, and the quotient is at most one
year off. -/
def yearOfDay (days : Int) : Int :=
  let guess := days * 400 / 146097
  if daysBeforeYear (guess + 1) ≤ days then guess + 1
  else if days < daysBeforeYear guess then guess - 1
  else guess

def monthDay (year : Int) : Nat → Nat → Nat → Nat × Nat
  | 0, month, offset => (month, offset + 1)
  | fuel + 1, month, offset =>
    if offset < daysInMonth year month then (month, offset + 1)
    else monthDay year fuel (month + 1) (offset - daysInMonth year month)

def ofDays (days : Int) : Date :=
  let year := yearOfDay days
  let (month, day) := monthDay year 11 1 (days - daysBeforeYear year).toNat
  ⟨year, month, day⟩

/-- The day of the week, with 0 for Monday. -/
def weekday (days : Int) : Nat := ((days + 5) % 7).toNat

/-- The year and number of the week of a day. Weeks begin on Monday and belong to the year of
their Thursday. -/
def isoWeek (days : Int) : Int × Nat :=
  let thursday := days - weekday days + 3
  let year := yearOfDay thursday
  (year, ((thursday - daysBeforeYear year) / 7).toNat + 1)

end Date

end DataMatch
