import DataMatch.Event
import DataMatch.Json.Text
import DataMatch.Report
import DataMatch.Required
import DataMatch.Text.Quoted

/-! Reading typed data from a value: required fields, reports and levels. A structure is read from
an object or from a list of its fields in order; the first problem in the order of the document is
reported. -/
namespace DataMatch

inductive DecodeError where
  | wrongType (found : Value) (expected : String)
  | unknownField (name : String) (known : List String)
  | missingField (name : String)
  | tooShort (length : Nat) (expected : String)
  | tooLong (length : Nat)
  | unknownVariant (name : String) (known : List String)
  | notOneKey

namespace DecodeError

def describe : Value → String
  | .null => "null"
  | .bool b => s!"boolean `{b}`"
  | .number (.int n) => s!"integer `{n}`"
  | .number (.float x) => s!"floating point `{x.text}`"
  | .string s => s!"string {Text.quoted s}"
  | .array _ => "sequence"
  | .object _ => "map"

def oneOf (names : List String) : String :=
  "one of " ++ ", ".intercalate (names.map fun name => s!"`{name}`")

def message : DecodeError → String
  | wrongType found expected => s!"invalid type: {describe found}, expected {expected}"
  | unknownField name known => s!"unknown field `{name}`, expected {oneOf known}"
  | missingField name => s!"missing field `{name}`"
  | tooShort length expected => s!"invalid length {length}, expected {expected}"
  | tooLong length => s!"invalid length {length}, expected fewer elements in array"
  | unknownVariant name known => s!"unknown variant `{name}`, expected {oneOf known}"
  | notOneKey => "invalid value: map, expected map with a single key"

end DecodeError

namespace Decode

def text : Value → Except DecodeError String
  | .string s => .ok s
  | v => .error (.wrongType v "a string")

def optionalText : Value → Except DecodeError (Option String)
  | .null => .ok none
  | v => (text v).map some

def flag : Value → Except DecodeError Bool
  | .bool b => .ok b
  | v => .error (.wrongType v "a boolean")

def texts : Value → Except DecodeError (List String)
  | .array items => items.mapM text
  | v => .error (.wrongType v "a sequence")

def atMost (count : Nat) (items : List Value) : Except DecodeError Unit :=
  if items.length ≤ count then .ok () else .error (.tooLong items.length)

end Decode

namespace FieldSet

def fieldNames : List String := ["scalar", "object", "array"]

def withMember (s : FieldSet) (member : String × Value) : Except DecodeError FieldSet :=
  match member.1 with
  | "scalar" => (Decode.texts member.2).map fun names => { s with scalar := names }
  | "object" => (Decode.texts member.2).map fun names => { s with object := names }
  | "array" => (Decode.texts member.2).map fun names => { s with array := names }
  | name => .error (.unknownField name fieldNames)

def decode : Value → Except DecodeError FieldSet
  | .object members => members.foldlM withMember empty
  | .array items => do
    let s ← (fieldNames.zip items).foldlM withMember empty
    Decode.atMost fieldNames.length items
    return s
  | v => .error (.wrongType v "struct FieldSet")

end FieldSet

namespace Report

structure Partial where
  matched : Option Bool
  error : Option String
  path : Option String
  message : Option String

def fieldNames : List String := ["matched", "error", "path", "message"]

/-- Takes one member of the document; unknown keys are passed over. -/
def Partial.withMember (p : Partial) (member : String × Value) : Except DecodeError Partial :=
  match member.1 with
  | "matched" => (Decode.flag member.2).map fun b => { p with matched := some b }
  | "error" => (Decode.optionalText member.2).map fun s => { p with error := s }
  | "path" => (Decode.optionalText member.2).map fun s => { p with path := s }
  | "message" => (Decode.optionalText member.2).map fun s => { p with message := s }
  | _ => .ok p

def Partial.finish (p : Partial) (missing : DecodeError) : Except DecodeError Report :=
  match p.matched with
  | some b => .ok ⟨b, p.error, p.path, p.message⟩
  | none => .error missing

def decode : Value → Except DecodeError Report
  | .object members => do
    let p ← members.foldlM Partial.withMember ⟨none, none, none, none⟩
    p.finish (.missingField "matched")
  | .array items => do
    let p ← (fieldNames.zip items).foldlM Partial.withMember ⟨none, none, none, none⟩
    let r ← p.finish (.tooShort 0 "struct CheckReport with 4 elements")
    Decode.atMost fieldNames.length items
    return r
  | v => .error (.wrongType v "struct CheckReport")

end Report

namespace Level

def names : List (String × Level) := [("debug", .debug), ("warn", .warn), ("error", .error)]

def named (name : String) : Except DecodeError Level :=
  match names.lookup name with
  | some level => .ok level
  | none => .error (.unknownVariant name (names.map (·.1)))

/-- A level is its name, or an object whose only key is its name and holds nothing. -/
def decode : Value → Except DecodeError Level
  | .string s => named s
  | .object [(name, content)] => do
    let level ← named name
    match content with
    | .null => .ok level
    | v => .error (.wrongType v "unit")
  | .object _ => .error .notOneKey
  | v => .error (.wrongType v "string or map")

end Level

end DataMatch
