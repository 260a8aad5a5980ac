import DataMatch.Expectation.Record
import DataMatch.Match.Compare
import DataMatch.Transform

/-! Reading an expectation from a document. Objects become records, whose reserved keys fill the
slots; any other value is a literal. -/
namespace DataMatch

inductive DocumentError where
  | notAString (path : Path) (key : String)
  | unknownTransform (path : Path) (name : String)
deriving DecidableEq, Repr

def DocumentError.message : DocumentError → String
  | notAString path key => s!"in \"{path}\": \"{key}\" must be a string"
  | unknownTransform path name => s!"in \"{path}\": unknown or invalid transform \"{name}\""

namespace Document

def expectText (path : Path) (key : String) : Value → Except DocumentError String
  | .string s => .ok s
  | _ => .error (.notAString path key)

/-- The record begun by `$check`, which is looked at before all other keys. -/
def start (path : Path) (members : Members) : Except DocumentError Record :=
  match members.lookup "$check" with
  | none => .ok .new
  | some v => (expectText path "$check" v).map Record.new.check

def isQuantified (r : Record) : Bool :=
  match r.slots.check.bind CheckKind.named? with
  | some (.quantify _) => true
  | _ => false

/-- The test that items are put to by an expectation in `$value`. What does not match is false; a
mistake in the expectation ends the check. -/
def satisfies (e : Expectation) : Predicate := fun item =>
  match check item e with
  | .ok () => .ok true
  | .error err =>
    match err.kind with
    | .configuration => .error err
    | _ => .ok false

def expectTransform (path : Path) (v : Value) : Except DocumentError Transform := do
  let name ← expectText path "$func" v
  match Transform.named? name with
  | some t => .ok t
  | none => .error (.unknownTransform path name)

mutual

def parseAt (path : Path) (document : Value) : Except DocumentError Expectation :=
  match document with
  | .object members => do
    let r ← parseMembers path (← start path members) members
    .ok r.toExpectation
  | primitive => .ok (.literal primitive)
termination_by structural document

def parseMembers (path : Path) (r : Record) (members : List (String × Value)) :
    Except DocumentError Record :=
  match members with
  | [] => .ok r
  | (key, v) :: rest =>
    match key with
    | "$check" => parseMembers path r rest
    | "$value" => do
      let operand ←
        if isQuantified r then (parseAt path v).map fun e => Operand.predicate (satisfies e)
        else .ok (.value v)
      parseMembers path (r.operand operand) rest
    | "$func" => do
      let t ← expectTransform path v
      parseMembers path (r.transform t) rest
    | "$eMessage" => do
      let message ← expectText path "$eMessage" v
      parseMembers path (r.message message) rest
    | name => do
      let e ← parseAt (path.push name) v
      parseMembers path (r.field name e) rest
termination_by structural members

end

def parse (document : Value) : Except DocumentError Expectation := parseAt .root document

end Document

end DataMatch
