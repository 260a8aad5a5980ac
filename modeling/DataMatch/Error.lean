import DataMatch.Path

/-! What a check reports: a kind, the place, and the message. Mistakes in an expectation are kept
apart by cause, and `Misuse.message` gives each its wording. -/
namespace DataMatch

inductive ErrorKind where
  /-- The input, or a part that the expectation names, is missing. -/
  | notFound
  /-- The expectation does not fit the data it is applied to. -/
  | configuration
  /-- The data is there and differs from what is expected. -/
  | assertion
deriving DecidableEq, Repr

def ErrorKind.name : ErrorKind → String
  | notFound => "not_found_error"
  | configuration => "configuration_error"
  | assertion => "assertion_error"

structure CheckError where
  kind : ErrorKind
  path : String
  message : String
deriving DecidableEq, Repr

abbrev Verdict := Except CheckError Unit

inductive Misuse where
  | undefinedOperator (name : String)
  | directiveOnObject
  | literalOnObject
  | literalOnArray
  | checkRequired
  | valueRequired
  | predicateForComparison
  | valueForQuantifier
  | notArray
  | nameOnArray
  | containerOperand (actual expected : String)
deriving DecidableEq, Repr

def Misuse.message (path : Path) : Misuse → String
  | undefinedOperator name => s!"Undefined operator: \"{name}\"."
  | directiveOnObject => s!"\"{path.last}\" is object. You must use nesting for the object."
  | literalOnObject => s!"\"{path.last}\" is object. Cannot use default 'equal' for object."
  | literalOnArray => s!"\"{path.last}\" is array. Please use object for iteration or object to get element of array."
  | checkRequired => "\"$check\" required."
  | valueRequired => "\"$value\" required."
  | predicateForComparison => "\"$value\" must be a value for comparison operators."
  | valueForQuantifier => "\"$value\" must be a function."
  | notArray => s!"{path.last} is not array."
  | nameOnArray => s!"\"{path.last}\" is array. You must use numbers to get item in arrays."
  | containerOperand actual expected =>
    s!"\"{path.last}\" and \"$value\" must be a primitive. \"{path.last}\" is {actual}; \"$value\" is {expected}. Possibly incorrect value in \"$check\"."

namespace CheckError

def assertion (path : Path) (message : String) : CheckError := ⟨.assertion, path.text, message⟩

def missing (path : Path) : CheckError :=
  ⟨.notFound, path.text, s!"\"{path}\" Not Found. See the query schema."⟩

def misuse (path : Path) (m : Misuse) : CheckError :=
  ⟨.configuration, path.text, s!"in \"{path}\": {m.message path}"⟩

end CheckError

end DataMatch
