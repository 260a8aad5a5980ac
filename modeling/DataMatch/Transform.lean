import DataMatch.Expectation.Basic
import DataMatch.Json.Text
import DataMatch.Text.Casing
import DataMatch.Time.Format
import DataMatch.Value.Comparison

/-! The built-in transforms, by name. A value that a transform cannot handle stays as it is. -/
namespace DataMatch.Transform

def onText (f : String → String) : Value → Value
  | .string s => .string (f s)
  | v => v

def length : Value → Value
  | .string s => .int s.length
  | .array items => .int items.length
  | .object members => .int members.length
  | v => v

/-- A primitive as a number, unless it is none that JSON can write. -/
def number : Value → Value
  | .number n => .number n
  | .array items => .array items
  | .object members => .object members
  | v =>
    match v.toNumber with
    | .finite x => .number (.float x)
    | _ => v

def string : Value → Value
  | .string s => .string s
  | v => .string v.text

def utc : Value → Value := onText fun s => (Timestamp.normalize? s).getD s

def date (pattern : String) : Value → Value := onText fun s => (Time.format? pattern s).getD s

def simple : List (String × (Value → Value)) :=
  [("length", length), ("lowercase", onText Text.lowercase), ("uppercase", onText Text.uppercase),
    ("trim", onText Text.trim), ("string", string), ("number", number), ("utc", utc)]

def datePattern? (name : String) : Option String :=
  if "date:".toList.isPrefixOf name.toList then some (String.ofList (name.toList.drop 5)) else none

def named? (name : String) : Option Transform :=
  match datePattern? name with
  | some pattern => if Time.isValidPattern pattern then some ⟨name, date pattern⟩ else none
  | none => (simple.lookup name).map fun f => ⟨name, f⟩

end DataMatch.Transform
