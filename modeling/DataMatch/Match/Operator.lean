import DataMatch.Error
import DataMatch.Expectation.Basic
import DataMatch.Value.Comparison

/-! What `$check` may name: comparisons, quantifiers over the items of an array, and `forEach`. -/
namespace DataMatch

inductive Operator where
  | looseEq
  | strictEq
  | looseNe
  | strictNe
  | ge
  | le
  | lt
  | gt
  | equal
  | notEqual
  | strictEqual
deriving DecidableEq, Repr

inductive Quantifier where
  | some
  | every
deriving DecidableEq, Repr

inductive CheckKind where
  | compare (op : Operator)
  | quantify (q : Quantifier)
  | forEach
deriving DecidableEq, Repr

def CheckKind.names : List (String × CheckKind) :=
  [("==", .compare .looseEq), ("===", .compare .strictEq), ("!=", .compare .looseNe),
    ("!==", .compare .strictNe), (">=", .compare .ge), ("<=", .compare .le), ("<", .compare .lt),
    (">", .compare .gt), ("equal", .compare .equal), ("notEqual", .compare .notEqual),
    ("strictEqual", .compare .strictEqual), ("some", .quantify .some),
    ("every", .quantify .every), ("forEach", .forEach)]

def CheckKind.named? (name : String) : Option CheckKind := names.lookup name

def CheckKind.resolve (name : String) : Except Misuse CheckKind :=
  match named? name with
  | some kind => .ok kind
  | none => .error (.undefinedOperator name)

def Operator.holds (op : Operator) (actual expected : Value) : Bool :=
  match op with
  | looseEq | equal => actual.looseEq expected
  | looseNe | notEqual => !actual.looseEq expected
  | strictEq | strictEqual => actual.strictEq expected
  | strictNe => !actual.strictEq expected
  | ge => actual.relate expected == some .gt || actual.relate expected == some .eq
  | le => actual.relate expected == some .lt || actual.relate expected == some .eq
  | lt => actual.relate expected == some .lt
  | gt => actual.relate expected == some .gt

def ensure (passed : Bool) (message : String) (path : Path) : Verdict :=
  if passed then .ok () else .error (.assertion path message)

def Operator.evaluate (op : Operator) (actual expected : Value) (message : String) (path : Path) :
    Verdict :=
  ensure (op.holds actual expected) message path

/-- Whether the items satisfy the quantifier. Items after the one that decides are not tested. -/
def Quantifier.holds (q : Quantifier) (test : Predicate) : List Value → Except CheckError Bool
  | [] => .ok (q == every)
  | item :: rest => do
    match q, ← test item with
    | some, true => .ok true
    | every, false => .ok false
    | _, _ => q.holds test rest

def Quantifier.evaluate (q : Quantifier) (items : List Value) (test : Predicate)
    (message : String) (path : Path) : Verdict := do
  ensure (← q.holds test items) message path

end DataMatch
