import DataMatch.Match.Demand
import DataMatch.Match.Walk

/-! Comparing a value with an expectation. `Expectation.walk` goes through both in step and stops at
the first failure, with the path left at the place it had reached. -/
namespace DataMatch

def compareLiteral (actual expected : Value) : Walk :=
  match actual with
  | .object _ => .misused .literalOnObject
  | .array _ => .misused .literalOnArray
  | _ => .settle fun path =>
    Operator.equal.evaluate actual expected s!"Incorrect \"{path}\"." path

/-- A comparison directive: both sides go through `$func`; without it both have to be
primitives. -/
def Slots.compareDirective (s : Slots) (op : Operator) (actual expected : Value) : Walk :=
  match s.transform with
  | some t => .settle fun path =>
    op.evaluate (t.apply actual) (t.apply expected) (s.failureText actual path) path
  | .none =>
    if actual.isContainer || expected.isContainer then
      .misused (.containerOperand actual.kindName expected.kindName)
    else
      .settle fun path => op.evaluate actual expected (s.failureText actual path) path

def walkItems (walkItem : Value → Walk) : Nat → List Value → Walk
  | _, [] => pure ()
  | position, item :: rest => do
    Walk.under (toString position) (walkItem item)
    walkItems walkItem (position + 1) rest

def walkPlain (names : List String) (walkFields : (String → Option Value) → Walk)
    (actual : Value) : Walk :=
  match fieldSource names actual with
  | .error m => .misused m
  | .ok find => walkFields find

def Slots.walkRecord (s : Slots) (names : List String)
    (walkFields : (String → Option Value) → Walk) (actual : Value) : Walk :=
  match s.demand names actual with
  | .error m => .misused m
  | .ok (.fields find) => walkFields find
  | .ok (.forEach items) => walkItems (walkPlain names walkFields) 0 items
  | .ok (.quantified items q test) =>
    .settle fun path => q.evaluate items test (s.failureText actual path) path
  | .ok (.compared op expected) => s.compareDirective op actual expected

mutual

/-- Compares a value with an expectation. No value stands for one that is missing from the data. -/
def Expectation.walk (actual : Option Value) (expectation : Expectation) : Walk :=
  match actual with
  | none => .settle fun path => .error (.missing path)
  | some actual =>
    match expectation with
    | .literal expected => compareLiteral actual expected
    | .record slots fields =>
      slots.walkRecord (fields.map (·.1)) (fun find => Expectation.walkFields find fields) actual
termination_by structural expectation

def Expectation.walkFields (find : String → Option Value) (fields : List (String × Expectation)) :
    Walk :=
  match fields with
  | [] => pure ()
  | (name, expectation) :: rest => do
    Walk.under name (Expectation.walk (find name) expectation)
    Expectation.walkFields find rest
termination_by structural fields

end

def Expectation.compare (actual : Option Value) (expectation : Expectation) (path : Path) :
    Outcome :=
  (expectation.walk actual).outcome path

def isMatch (actual : Value) (expectation : Expectation) : Bool :=
  (expectation.compare (some actual) .root).isOk

def check (actual : Value) (expectation : Expectation) : Verdict :=
  (expectation.compare (some actual) .root).mapError Failure.error

end DataMatch
