import DataMatch.Error
import DataMatch.Value.Lookup

/-! Required fields: which fields have to be there, and in which shape, before anything is
compared. -/
namespace DataMatch

structure FieldSet where
  scalar : List String
  object : List String
  array : List String
deriving DecidableEq, Repr

namespace FieldSet

def empty : FieldSet := ⟨[], [], []⟩

def toValue (s : FieldSet) : Value :=
  let names (l : List String) : Value := .array (l.map .string)
  .object [("scalar", names s.scalar), ("object", names s.object), ("array", names s.array)]

end FieldSet

inductive Bucket where
  | scalar
  | object
  | array
deriving DecidableEq, Repr

namespace Bucket

def holds : Bucket → Option Value → Bool
  | _, none => false
  | scalar, some v => !v.isNull
  | object, some (.object members) => !members.isEmpty
  | array, some (.array _) => true
  | _, some _ => false

def requirement : Bucket → String
  | scalar => "it should return"
  | object => "it should be not empty"
  | array => "it should be array"

def violation (b : Bucket) (field : String) : CheckError :=
  ⟨.assertion, field, s!"Error in \"requiredFields\": {b.requirement} \"{field}\""⟩

end Bucket

namespace FieldSet

def entries (s : FieldSet) : List (Bucket × String) :=
  s.scalar.map (Bucket.scalar, ·) ++ s.object.map (Bucket.object, ·)
    ++ s.array.map (Bucket.array, ·)

/-- The value of a required field. With a base, it is a plain member of the member `base`. -/
def find (data : Value) (base : Option String) (field : String) : Option Value :=
  match base with
  | none => data.field? field
  | some base => (data.get? base).bind (·.get? field)

def verify (s : FieldSet) (data : Value) (base : Option String) : Verdict :=
  s.entries.forM fun (bucket, field) =>
    if bucket.holds (find data base field) then .ok () else .error (bucket.violation field)

end FieldSet

end DataMatch
