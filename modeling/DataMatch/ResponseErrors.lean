import DataMatch.Error
import DataMatch.Event
import DataMatch.Json.Text
import DataMatch.Value.Comparison

/-! Checks on the errors that a response reports: that there are none, or that the first one is the
desired one. -/
namespace DataMatch.ResponseErrors

def describe (error : Value) : String :=
  match error.get? "message" with
  | some (.string message) => message
  | _ => error.text

def reportEvent (level : Level) (error : Value) : Event :=
  ⟨level, s!"there should be no error: \"{describe error}\"", []⟩

def expectNone (errors : Option (List Value)) (level : Option Level) : Logged Verdict :=
  match errors.getD [] with
  | [] => ⟨[], .ok ()⟩
  | errors =>
    ⟨level.toList.flatMap fun l => errors.map (reportEvent l),
      .error ⟨.assertion, "", s!"there should be no errors: {(Value.array errors).text}"⟩⟩

def firstMessage : Value → Option Value
  | .array [] => none
  | .array (first :: _) => first.get? "message"
  | single => single.get? "message"

/-- Passes when the first error's message equals the desired one, loosely. -/
def expectMessage (errors : Option Value) (desired : String) : Verdict :=
  match errors with
  | none | some .null => .error ⟨.notFound, "", "Not found errors"⟩
  | some errors =>
    if (firstMessage errors).any fun message => message.looseEq (.string desired) then
      .ok ()
    else
      .error ⟨.assertion, "", s!"there should be error: \"{desired}\""⟩

end DataMatch.ResponseErrors
