import DataMatch.Time.Timestamp

/-! Time patterns: text with `%` specifiers. Reading a pattern gives its items; a pattern is valid
if every specifier in it is known. -/
namespace DataMatch.Time

inductive Pad where
  | none
  | zero
  | space
deriving DecidableEq, Repr

inductive NumericField where
  | year
  | century
  | yearOfCentury
  | isoYear
  | isoYearOfCentury
  | quarter
  | month
  | day
  | weekFromSunday
  | weekFromMonday
  | isoWeek
  | daysFromSunday
  | dayOfWeek
  | dayOfYear
  | hour
  | hour12
  | minute
  | second
  | nanosecond
  | epochSecond
deriving DecidableEq, Repr

inductive TextField where
  | shortMonth
  | longMonth
  | shortWeekday
  | longWeekday
  | lowerHalf
  | upperHalf
  | fraction
  | fractionDigits (point : Bool) (count : Nat)
  | offset
  | offsetColon
  | offsetSeconds
  | offsetHours
  | rfc3339
deriving DecidableEq, Repr

inductive Item where
  | literal (c : Char)
  | number (field : NumericField) (pad : Pad)
  | text (field : TextField)
  /-- An offset in any form. It can be read but not written. -/
  | anyOffset
  | unknown
deriving DecidableEq, Repr

open NumericField TextField

def zero (f : NumericField) : Item := .number f .zero

def space (f : NumericField) : Item := .number f .space

def slashDate : List Item :=
  [zero month, .literal '/', zero day, .literal '/', zero yearOfCentury]

def hourMinute : List Item := [zero hour, .literal ':', zero minute]

def clock : List Item := hourMinute ++ [.literal ':', zero second]

/-- Every specifier, without its `%` and modifiers, and what it stands for. None is the beginning
of another one. -/
def specifiers : List (String × List Item) :=
  [("A", [.text longWeekday]), ("B", [.text longMonth]), ("C", [zero century]), ("D", slashDate),
    ("F", [zero year, .literal '-', zero month, .literal '-', zero day]), ("G", [zero isoYear]),
    ("H", [zero hour]), ("I", [zero hour12]), ("M", [zero minute]), ("P", [.text lowerHalf]),
    ("R", hourMinute), ("S", [zero second]), ("T", clock), ("U", [zero weekFromSunday]),
    ("V", [zero isoWeek]), ("W", [zero weekFromMonday]), ("X", clock), ("Y", [zero year]),
    ("Z", [.text offsetColon]), ("a", [.text shortWeekday]), ("b", [.text shortMonth]),
    ("c", [.text shortWeekday, .literal ' ', .text shortMonth, .literal ' ', space day,
      .literal ' '] ++ clock ++ [.literal ' ', zero year]),
    ("d", [zero day]), ("e", [space day]), ("f", [zero nanosecond]), ("g", [zero isoYearOfCentury]),
    ("h", [.text shortMonth]), ("j", [zero dayOfYear]), ("k", [space hour]), ("l", [space hour12]),
    ("m", [zero month]), ("n", [.literal '\n']), ("p", [.text upperHalf]),
    ("q", [.number quarter .none]),
    ("r", [zero hour12, .literal ':', zero minute, .literal ':', zero second, .literal ' ',
      .text upperHalf]),
    ("s", [.number epochSecond .none]), ("t", [.literal '\t']), ("u", [.number dayOfWeek .none]),
    ("v", [space day, .literal '-', .text shortMonth, .literal '-', zero year]),
    ("w", [.number daysFromSunday .none]), ("x", slashDate), ("y", [zero yearOfCentury]),
    ("z", [.text offset]), ("#z", [.anyOffset]), ("+", [.text rfc3339]), ("%", [.literal '%']),
    (":z", [.text offsetColon]), ("::z", [.text offsetSeconds]), (":::z", [.text offsetHours]),
    (".f", [.text fraction]), (".3f", [.text (fractionDigits true 3)]),
    (".6f", [.text (fractionDigits true 6)]), (".9f", [.text (fractionDigits true 9)]),
    ("3f", [.text (fractionDigits false 3)]), ("6f", [.text (fractionDigits false 6)]),
    ("9f", [.text (fractionDigits false 9)])]

def padOf? : Char → Option Pad
  | '-' => some .none
  | '0' => some .zero
  | '_' => some .space
  | _ => Option.none

/-- Another padding for a specifier, which only a single number can take. -/
def repad (pad : Pad) : List Item → List Item
  | [.number f _] => [.number f pad]
  | _ => [.unknown]

def specifier (cs : List Char) : List Item × List Char :=
  match specifiers.find? fun (name, _) => name.toList.isPrefixOf cs with
  | some (name, items) => (items, cs.drop name.toList.length)
  | Option.none => ([.unknown], cs.drop 1)

def directive : List Char → List Item × List Char
  | [] => ([.unknown], [])
  | c :: cs =>
    match padOf? c with
    | some pad => (repad pad (specifier cs).1, (specifier cs).2)
    | Option.none => specifier (c :: cs)

theorem length_specifier_le (cs : List Char) : (specifier cs).2.length ≤ cs.length := by
  unfold specifier
  split <;> simp only [List.length_drop] <;> omega

theorem length_directive_le (cs : List Char) : (directive cs).2.length ≤ cs.length := by
  unfold directive
  split
  · exact Nat.le_refl _
  · split
    · exact Nat.le_succ_of_le (length_specifier_le _)
    · exact length_specifier_le _

def items (pattern : List Char) : List Item :=
  match pattern with
  | [] => []
  | c :: cs =>
    if c = '%' then (directive cs).1 ++ items (directive cs).2
    else .literal c :: items cs
termination_by pattern.length
decreasing_by
  · exact Nat.lt_succ_of_le (length_directive_le cs)
  · exact Nat.lt_succ_self _

def isValidPattern (pattern : String) : Bool := (items pattern.toList).all (· ≠ .unknown)

end DataMatch.Time
