import DataMatch.Event
import DataMatch.Match.Compare
import DataMatch.Required

/-! Checking a whole input. The elements of an array are checked one after another, each for its
required fields first and then against the template. -/
namespace DataMatch

namespace Template

def forElement (t : Template) (element : Value) : Except CheckError Expectation :=
  match t with
  | fixed e => .ok e
  | each make => make element

end Template

def checkElement (required : Option FieldSet) (element : Value) (e : Expectation) : Verdict := do
  match required with
  | some fields => fields.verify element none
  | none => .ok ()
  check element e

/-- Checks an input against a template. A template that depends on the element needs an array. -/
def checkData (data : Option Value) (template : Template) (required : Option FieldSet) :
    Verdict :=
  match data with
  | none | some .null => .error ⟨.notFound, "", "Not found data"⟩
  | some (.array []) => .error ⟨.notFound, "", "data is empty Array."⟩
  | some (.array elements) =>
    elements.forM fun element => do
      checkElement required element (← template.forElement element)
  | some single =>
    match template with
    | .fixed e => checkElement required single e
    | .each _ =>
      .error ⟨.configuration, "", "\"data\" is not array. The expectation should be an object."⟩

def dataEvents : Option Value → List Event
  | some (.array []) => []
  | some (.array elements) =>
    [⟨.debug, "checking array input element by element",
      [("elements", toString elements.length)]⟩]
  | _ => []

end DataMatch
