import DataMatch.Text.Integer
import DataMatch.Time.Calendar

/-! RFC 3339 timestamps: reading them, and writing them as a local time with an offset or in UTC. -/
namespace DataMatch

/-- A moment and the offset it was written with. The moment is a minute of UTC, counted from the
year 0, and a second of that minute; second 60 is a leap second. -/
structure Timestamp where
  minute : Int
  second : Nat
  nanosecond : Nat
  offset : Int
deriving DecidableEq, Repr

namespace Timestamp

def takeDigits (count : Nat) (cs : List Char) : Option (Nat × List Char) :=
  if count ≤ cs.length then
    (Text.readDigits (cs.take count)).map (·, cs.drop count)
  else
    none

def takeChar (c : Char) : List Char → Option (List Char)
  | [] => none
  | d :: cs => if d = c then some cs else none

/-- A fraction of a second in nanoseconds, if a point comes next. Digits after the ninth are
read over. -/
def takeFraction : List Char → Option (Nat × List Char)
  | '.' :: cs =>
    let digits := cs.takeWhile Char.isDigit
    let kept := digits.take 9
    (Text.readDigits kept).map fun n =>
      (n * Nat.pow 10 (9 - kept.length), cs.dropWhile Char.isDigit)
  | cs => some (0, cs)

/-- The minutes of an offset: `Z`, or a sign, hours and minutes. The sign may be the mathematical
minus. -/
def takeOffset : List Char → Option (Int × List Char)
  | [] => none
  | c :: cs =>
    if c = 'Z' ∨ c = 'z' then some (0, cs)
    else if c = '+' ∨ c = '-' ∨ c = '\u2212' then do
      let (hours, cs) ← takeDigits 2 cs
      let cs ← takeChar ':' cs
      let (minutes, cs) ← takeDigits 2 cs
      if hours ≤ 23 ∧ minutes ≤ 59 then
        let size : Int := hours * 60 + minutes
        some (if c = '+' then size else -size, cs)
      else
        none
    else none

def isSeparator (c : Char) : Bool := c == 'T' || c == 't' || c == ' '

def ofChars? (cs : List Char) : Option Timestamp := do
  let (year, cs) ← takeDigits 4 cs
  let cs ← takeChar '-' cs
  let (month, cs) ← takeDigits 2 cs
  let cs ← takeChar '-' cs
  let (day, cs) ← takeDigits 2 cs
  guard (cs.head?.any isSeparator)
  let (hour, cs) ← takeDigits 2 (cs.drop 1)
  let cs ← takeChar ':' cs
  let (minute, cs) ← takeDigits 2 cs
  let cs ← takeChar ':' cs
  let (second, cs) ← takeDigits 2 cs
  let (nanosecond, cs) ← takeFraction cs
  let (offset, cs) ← takeOffset cs
  let date : Date := ⟨year, month, day⟩
  guard (cs = [] ∧ date.isValid ∧ hour ≤ 23 ∧ minute ≤ 59 ∧ second ≤ 60)
  return ⟨date.toDays * 1440 + (hour * 60 + minute : Nat) - offset, second, nanosecond, offset⟩

def ofText? (s : String) : Option Timestamp := ofChars? s.toList

def toUtc (t : Timestamp) : Timestamp := { t with offset := 0 }

def localMinute (t : Timestamp) : Int := t.minute + t.offset

def days (t : Timestamp) : Int := t.localMinute / 1440

def date (t : Timestamp) : Date := .ofDays t.days

def hour (t : Timestamp) : Nat := (t.localMinute % 1440).toNat / 60

def minuteOfHour (t : Timestamp) : Nat := (t.localMinute % 1440).toNat % 60

end Timestamp

namespace Time

/-- A number filled up on the left to at least `width` characters; a sign stays in front of
zeros. -/
def padded (fill : Char) (width : Nat) (n : Int) : List Char :=
  let digits := Text.decimalDigits n.natAbs
  let sign := if n < 0 then ['-'] else []
  let missing := List.replicate (width - digits.length - sign.length) fill
  if fill = '0' then sign ++ missing ++ digits else missing ++ sign ++ digits

def zeros (width : Nat) (n : Int) : List Char := padded '0' width n

/-- A year: four digits from 0 to 9999, else with a sign in front of them. -/
def yearChars (y : Int) : List Char :=
  if 0 ≤ y ∧ y ≤ 9999 then zeros 4 y
  else (if y < 0 then '-' else '+') :: zeros 4 y.natAbs

def fractionChars (nanosecond : Nat) : List Char :=
  if nanosecond = 0 then []
  else if nanosecond % 1000000 = 0 then '.' :: zeros 3 (nanosecond / 1000000 : Nat)
  else if nanosecond % 1000 = 0 then '.' :: zeros 6 (nanosecond / 1000 : Nat)
  else '.' :: zeros 9 nanosecond

def offsetChars (between : List Char) (minutes : Int) : List Char :=
  (if minutes < 0 then '-' else '+') ::
    (zeros 2 (minutes.natAbs / 60 : Nat) ++ between ++ zeros 2 (minutes.natAbs % 60 : Nat))

end Time

namespace Timestamp

open Time

def localChars (t : Timestamp) : List Char :=
  yearChars t.date.year ++ '-' :: zeros 2 t.date.month ++ '-' :: zeros 2 t.date.day
    ++ 'T' :: zeros 2 t.hour ++ ':' :: zeros 2 t.minuteOfHour ++ ':' :: zeros 2 t.second
    ++ fractionChars t.nanosecond

def chars (t : Timestamp) : List Char := t.localChars ++ offsetChars [':'] t.offset

def utcChars (t : Timestamp) : List Char := t.toUtc.localChars ++ ['Z']

def normalize? (s : String) : Option String :=
  (ofText? s).map fun t => String.ofList t.utcChars

end Timestamp

end DataMatch
