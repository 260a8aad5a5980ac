import DataMatch.Match.Compare

/-! What it means that a value matches an expectation, and where it first fails to, stated without
the comparison. `Matches` is the relation; `FirstFailure` goes down to the first node that is at
fault, past siblings that match. A node is at fault when its value is missing, when the expectation
is misused there, or when the value differs; apart from these, the test of a quantifier may give an
error of its own. -/
namespace DataMatch

namespace Slots

def kind? (s : Slots) : Option CheckKind := s.check.bind CheckKind.named?

def prepared (s : Slots) (v : Value) : Value :=
  match s.transform with
  | some t => t.apply v
  | .none => v

def Comparable (s : Slots) (actual expected : Value) : Prop :=
  s.transform = .none → actual.isContainer = false ∧ expected.isContainer = false

end Slots

namespace Quantifier

/-- The test answers `passing` up to some item, and `answer` there. -/
def FirstAnswer (test : Predicate) (passing : Bool) (answer : Except CheckError Bool)
    (items : List Value) : Prop :=
  ∃ before item after, items = before ++ item :: after ∧
    (∀ earlier ∈ before, test earlier = .ok passing) ∧ test item = answer

/-- Some item passes and none before it ends the check, or every item passes. -/
def Satisfied (test : Predicate) (items : List Value) : Quantifier → Prop
  | some => FirstAnswer test false (.ok true) items
  | every => ∀ item ∈ items, test item = .ok true

def Refuted (test : Predicate) (items : List Value) : Quantifier → Prop
  | some => ∀ item ∈ items, test item = .ok false
  | every => FirstAnswer test true (.ok false) items

def Aborted (test : Predicate) (items : List Value) (e : CheckError) : Quantifier → Prop
  | some => FirstAnswer test false (.error e) items
  | every => FirstAnswer test true (.error e) items

end Quantifier

inductive Matches : Option Value → Expectation → Prop
  | literal {v expected : Value} (primitive : v.isContainer = false)
      (equal : v.looseEq expected = true) : Matches (some v) (.literal expected)
  | object {members : Members} {fields : Fields}
      (each : ∀ field ∈ fields, Matches ((Value.object members).field? field.1) field.2) :
      Matches (some (.object members)) (.record .none fields)
  | positions {items : List Value} {fields : Fields}
      (integers : ∀ field ∈ fields, (parseIndex field.1).isSome = true)
      (each : ∀ field ∈ fields, Matches ((parseIndex field.1).bind (resolveIndex items)) field.2) :
      Matches (some (.array items)) (.record .none fields)
  | forEach {items : List Value} {s : Slots} {fields : Fields} (kind : s.kind? = some .forEach)
      (each : ∀ item ∈ items, Matches (some item) (.record .none fields)) :
      Matches (some (.array items)) (.record s fields)
  | quantified {items : List Value} {s : Slots} {fields : Fields} {q : Quantifier}
      {test : Predicate} (kind : s.kind? = some (.quantify q))
      (operand : s.operand = some (.predicate test)) (satisfied : q.Satisfied test items) :
      Matches (some (.array items)) (.record s fields)
  | compared {v expected : Value} {s : Slots} {fields : Fields} {op : Operator}
      (shape : v.isObject = false) (kind : s.kind? = some (.compare op))
      (operand : s.operand = some (.value expected)) (comparable : s.Comparable v expected)
      (holds : op.holds (s.prepared v) (s.prepared expected) = true) :
      Matches (some v) (.record s fields)

inductive Misused : Value → Expectation → Misuse → Prop
  | literalOnObject {members : Members} {expected : Value} :
      Misused (.object members) (.literal expected) .literalOnObject
  | literalOnArray {items : List Value} {expected : Value} :
      Misused (.array items) (.literal expected) .literalOnArray
  | directiveOnObject {members : Members} {s : Slots} {fields : Fields} (set : s ≠ .none) :
      Misused (.object members) (.record s fields) .directiveOnObject
  | uncheckedOnArray {items : List Value} {s : Slots} {fields : Fields} (set : s ≠ .none)
      (unchecked : s.check = none) : Misused (.array items) (.record s fields) .checkRequired
  | nameOnArray {items : List Value} {fields : Fields} {field : String × Expectation}
      (member : field ∈ fields) (name : parseIndex field.1 = none) :
      Misused (.array items) (.record .none fields) .nameOnArray
  | uncheckedOnPrimitive {v : Value} {s : Slots} {fields : Fields}
      (primitive : v.isContainer = false) (unchecked : s.check = none) :
      Misused v (.record s fields) .checkRequired
  | undefinedOperator {v : Value} {s : Slots} {fields : Fields} {name : String}
      (shape : v.isObject = false) (check : s.check = some name)
      (unknown : CheckKind.named? name = none) :
      Misused v (.record s fields) (.undefinedOperator name)
  | forEachOnPrimitive {v : Value} {s : Slots} {fields : Fields}
      (primitive : v.isContainer = false) (kind : s.kind? = some .forEach) :
      Misused v (.record s fields) .notArray
  | quantifierOnPrimitive {v : Value} {s : Slots} {fields : Fields} {q : Quantifier}
      (primitive : v.isContainer = false) (kind : s.kind? = some (.quantify q)) :
      Misused v (.record s fields) .notArray
  | quantifierWithoutOperand {items : List Value} {s : Slots} {fields : Fields} {q : Quantifier}
      (kind : s.kind? = some (.quantify q)) (operand : s.operand = none) :
      Misused (.array items) (.record s fields) .valueRequired
  | valueForQuantifier {items : List Value} {s : Slots} {fields : Fields} {q : Quantifier}
      {expected : Value} (kind : s.kind? = some (.quantify q))
      (operand : s.operand = some (.value expected)) :
      Misused (.array items) (.record s fields) .valueForQuantifier
  | comparisonWithoutOperand {v : Value} {s : Slots} {fields : Fields} {op : Operator}
      (shape : v.isObject = false) (kind : s.kind? = some (.compare op))
      (operand : s.operand = none) : Misused v (.record s fields) .valueRequired
  | predicateForComparison {v : Value} {s : Slots} {fields : Fields} {op : Operator}
      {test : Predicate} (shape : v.isObject = false) (kind : s.kind? = some (.compare op))
      (operand : s.operand = some (.predicate test)) :
      Misused v (.record s fields) .predicateForComparison
  | containerOperand {v expected : Value} {s : Slots} {fields : Fields} {op : Operator}
      (shape : v.isObject = false) (kind : s.kind? = some (.compare op))
      (operand : s.operand = some (.value expected)) (raw : ¬ s.Comparable v expected) :
      Misused v (.record s fields) (.containerOperand v.kindName expected.kindName)

/-- The value is there and the expectation fits it, but the comparison at this node is false. -/
inductive Differs : Value → Expectation → Prop
  | literal {v expected : Value} (primitive : v.isContainer = false)
      (unequal : v.looseEq expected = false) : Differs v (.literal expected)
  | compared {v expected : Value} {s : Slots} {fields : Fields} {op : Operator}
      (shape : v.isObject = false) (kind : s.kind? = some (.compare op))
      (operand : s.operand = some (.value expected)) (comparable : s.Comparable v expected)
      (fails : op.holds (s.prepared v) (s.prepared expected) = false) : Differs v (.record s fields)
  | quantified {items : List Value} {s : Slots} {fields : Fields} {q : Quantifier}
      {test : Predicate} (kind : s.kind? = some (.quantify q))
      (operand : s.operand = some (.predicate test)) (refuted : q.Refuted test items) :
      Differs (.array items) (.record s fields)

def Expectation.failureText (e : Expectation) (actual : Value) (path : Path) : String :=
  match e with
  | .literal _ => s!"Incorrect \"{path}\"."
  | .record s _ => s.failureText actual path

inductive Fault : Option Value → Expectation → Path → CheckError → Prop
  | missing {e : Expectation} {path : Path} : Fault none e path (.missing path)
  | misused {v : Value} {e : Expectation} {m : Misuse} {path : Path} (h : Misused v e m) :
      Fault (some v) e path (.misuse path m)
  | differs {v : Value} {e : Expectation} {path : Path} (h : Differs v e) :
      Fault (some v) e path (.assertion path (e.failureText v path))

inductive PredicateFault : Option Value → Expectation → Path → CheckError → Prop
  | aborted {items : List Value} {s : Slots} {fields : Fields} {q : Quantifier} {test : Predicate}
      {path : Path} {err : CheckError} (kind : s.kind? = some (.quantify q))
      (operand : s.operand = some (.predicate test)) (aborted : q.Aborted test items err) :
      PredicateFault (some (.array items)) (.record s fields) path err

/-- The first node at fault below a path: all siblings before each node on the way to it match. -/
inductive FirstFailure (fault : Option Value → Expectation → Path → CheckError → Prop) :
    Option Value → Expectation → Path → Failure → Prop
  | here {actual : Option Value} {e : Expectation} {path : Path} {err : CheckError}
      (h : fault actual e path err) : FirstFailure fault actual e path ⟨path, err⟩
  | field {members : Members} {before after : Fields} {name : String} {child : Expectation}
      {path : Path} {f : Failure}
      (passed : ∀ field ∈ before, Matches ((Value.object members).field? field.1) field.2)
      (below : FirstFailure fault ((Value.object members).field? name) child (path.push name) f) :
      FirstFailure fault (some (.object members)) (.record .none (before ++ (name, child) :: after))
        path f
  | position {items : List Value} {before after : Fields} {key : String} {child : Expectation}
      {path : Path} {f : Failure}
      (integers : ∀ field ∈ before ++ (key, child) :: after, (parseIndex field.1).isSome = true)
      (passed : ∀ field ∈ before, Matches ((parseIndex field.1).bind (resolveIndex items)) field.2)
      (below : FirstFailure fault ((parseIndex key).bind (resolveIndex items)) child
        (path.push key) f) :
      FirstFailure fault (some (.array items)) (.record .none (before ++ (key, child) :: after))
        path f
  | item {before after : List Value} {item : Value} {s : Slots} {fields : Fields} {path : Path}
      {f : Failure} (kind : s.kind? = some .forEach)
      (passed : ∀ earlier ∈ before, Matches (some earlier) (.record .none fields))
      (below : FirstFailure fault (some item) (.record .none fields)
        (path.push (toString before.length)) f) :
      FirstFailure fault (some (.array (before ++ item :: after))) (.record s fields) path f

def Ends (actual : Option Value) (e : Expectation) (path : Path) (err : CheckError) : Prop :=
  Fault actual e path err ∨ PredicateFault actual e path err

end DataMatch
