import DataMatch.Time.Pattern

/-! Writing a timestamp by a pattern, in its own offset. -/
namespace DataMatch.Time

def monthNames : List String :=
  ["January", "February", "March", "April", "May", "June", "July", "August", "September",
    "October", "November", "December"]

def weekdayNames : List String :=
  ["Monday", "Tuesday", "Wednesday", "Thursday", "Friday", "Saturday", "Sunday"]

def monthName (month : Nat) : List Char := (monthNames.getD (month - 1) "").toList

def weekdayName (weekday : Nat) : List Char := (weekdayNames.getD weekday "").toList

def epochDays : Int := 719528

/-- Seconds since the start of Unix time; a leap second counts as the one before it. -/
def epochSeconds (t : Timestamp) : Int :=
  (t.minute - epochDays * 1440) * 60 + (min t.second 59 : Nat)

def weekOfYear (t : Timestamp) (first : Nat) : Nat :=
  (t.date.ordinal + 6 - (Date.weekday t.days + 7 - first) % 7) / 7

def hour12 (t : Timestamp) : Nat := if t.hour % 12 = 0 then 12 else t.hour % 12

namespace NumericField

def value (t : Timestamp) : NumericField → Int
  | year => t.date.year
  | century => t.date.year / 100
  | yearOfCentury => t.date.year % 100
  | isoYear => (Date.isoWeek t.days).1
  | isoYearOfCentury => (Date.isoWeek t.days).1 % 100
  | quarter => ((t.date.month - 1) / 3 + 1 : Nat)
  | month => t.date.month
  | day => t.date.day
  | weekFromSunday => weekOfYear t 6
  | weekFromMonday => weekOfYear t 0
  | isoWeek => (Date.isoWeek t.days).2
  | daysFromSunday => ((Date.weekday t.days + 1) % 7 : Nat)
  | dayOfWeek => (Date.weekday t.days + 1 : Nat)
  | dayOfYear => t.date.ordinal
  | hour => t.hour
  | hour12 => Time.hour12 t
  | minute => t.minuteOfHour
  | second => t.second
  | nanosecond => t.nanosecond
  | epochSecond => epochSeconds t

def width : NumericField → Nat
  | year | isoYear => 4
  | quarter | daysFromSunday | dayOfWeek => 1
  | dayOfYear => 3
  | nanosecond | epochSecond => 9
  | _ => 2

/-- Years outside 0 to 9999 always carry a sign. -/
def isSigned (field : NumericField) (n : Int) : Bool :=
  (field = year || field = isoYear) && !(0 ≤ n && n ≤ 9999)

end NumericField

def signed (pad : Pad) (width : Nat) (n : Int) : List Char :=
  let sign := if n < 0 then '-' else '+'
  let digits := Text.decimalDigits n.natAbs
  let missing := width - digits.length
  match pad with
  | .none => sign :: digits
  | .zero => sign :: (List.replicate missing '0' ++ digits)
  | .space => List.replicate missing ' ' ++ sign :: digits

def number (field : NumericField) (pad : Pad) (n : Int) : List Char :=
  if field.isSigned n then signed pad field.width n
  else
    match pad with
    | .none => padded ' ' 0 n
    | .zero => padded '0' field.width n
    | .space => padded ' ' field.width n

def half (morning afternoon : String) (t : Timestamp) : List Char :=
  (if t.hour < 12 then morning else afternoon).toList

def fractionDigits (count nanosecond : Nat) : List Char := (zeros 9 nanosecond).take count

def TextField.chars (t : Timestamp) : TextField → List Char
  | shortMonth => (monthName t.date.month).take 3
  | longMonth => monthName t.date.month
  | shortWeekday => (weekdayName (Date.weekday t.days)).take 3
  | longWeekday => weekdayName (Date.weekday t.days)
  | lowerHalf => half "am" "pm" t
  | upperHalf => half "AM" "PM" t
  | fraction => fractionChars t.nanosecond
  | fractionDigits point count =>
    (if point then ['.'] else []) ++ Time.fractionDigits count t.nanosecond
  | offset => offsetChars [] t.offset
  | offsetColon => offsetChars [':'] t.offset
  | offsetSeconds => offsetChars [':'] t.offset ++ [':', '0', '0']
  | offsetHours => (offsetChars [] t.offset).take 3
  | rfc3339 => t.chars

def Item.chars? (t : Timestamp) : Item → Option (List Char)
  | literal c => some [c]
  | number field pad => some (Time.number field pad (field.value t))
  | text field => some (field.chars t)
  | anyOffset => none
  | unknown => none

def format? (pattern : String) (s : String) : Option String := do
  let t ← Timestamp.ofText? s
  let parts ← (items pattern.toList).mapM (·.chars? t)
  return String.ofList parts.flatten

end DataMatch.Time
