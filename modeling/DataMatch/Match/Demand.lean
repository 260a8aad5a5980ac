import DataMatch.Match.Operator
import DataMatch.Value.Lookup

/-! What a record demands of the value it meets, decided from its slots and the names of its fields
before anything is compared. -/
namespace DataMatch

inductive Demand where
  | fields (find : String → Option Value)
  | forEach (items : List Value)
  | quantified (items : List Value) (q : Quantifier) (test : Predicate)
  | compared (op : Operator) (expected : Value)

/-- How a record without slots finds the values of its fields: by name in an object, and by
position in an array, where every name has to be an integer. -/
def fieldSource (names : List String) (actual : Value) : Except Misuse (String → Option Value) :=
  match actual with
  | .object _ => .ok actual.field?
  | .array items =>
    if names.all fun name => (parseIndex name).isSome then
      .ok fun name => (parseIndex name).bind (resolveIndex items)
    else
      .error .nameOnArray
  | _ => .error .checkRequired

namespace Slots

def comparison (s : Slots) (op : Operator) : Except Misuse Demand :=
  match s.operand with
  | .none => .error .valueRequired
  | some (.predicate _) => .error .predicateForComparison
  | some (.value expected) => .ok (.compared op expected)

def quantification (s : Slots) (q : Quantifier) (items : List Value) : Except Misuse Demand :=
  match s.operand with
  | .none => .error .valueRequired
  | some (.value _) => .error .valueForQuantifier
  | some (.predicate test) => .ok (.quantified items q test)

/-- What a record with these slots and field names demands of `actual`. An object takes a record
without slots only; an array or a primitive is checked as `$check` says. -/
def demand (s : Slots) (names : List String) (actual : Value) : Except Misuse Demand :=
  match actual, s.check with
  | .object _, _ =>
    if s.isEmpty then (fieldSource names actual).map .fields else .error .directiveOnObject
  | .array items, some name => do
    match ← CheckKind.resolve name with
    | .forEach => .ok (.forEach items)
    | .quantify q => s.quantification q items
    | .compare op => s.comparison op
  | .array _, .none =>
    if s.isEmpty then (fieldSource names actual).map .fields else .error .checkRequired
  | _, some name => do
    match ← CheckKind.resolve name with
    | .compare op => s.comparison op
    | _ => .error .notArray
  | _, .none => .error .checkRequired

theorem demand_object (s : Slots) (names : List String) (members : Members) :
    s.demand names (.object members) =
      if s.isEmpty then (fieldSource names (.object members)).map .fields
      else .error .directiveOnObject := by
  simp only [demand]

theorem demand_unchecked {s : Slots} (unchecked : s.check = .none) (names : List String)
    (items : List Value) :
    s.demand names (.array items) =
      if s.isEmpty then (fieldSource names (.array items)).map .fields
      else .error .checkRequired := by
  simp only [demand, unchecked]

def failureText (s : Slots) (actual : Value) (path : Path) : String :=
  match s.message with
  | .none => s!"Incorrect \"{path}\"."
  | some m =>
    match s.operand with
    | some (.value expected) => m.text actual expected
    | _ => m.text actual .null

end Slots

end DataMatch
