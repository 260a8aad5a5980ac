import DataMatch.Error
import DataMatch.Value.Basic

/-! The outcome of one run as it is reported: matched, or the error's kind, path and message. -/
namespace DataMatch

structure Report where
  isMatched : Bool
  error : Option String
  path : Option String
  message : Option String
deriving DecidableEq, Repr

namespace Report

def matched : Report := ⟨true, none, none, none⟩

def ofError (e : CheckError) : Report := ⟨false, some e.kind.name, some e.path, some e.message⟩

def toValue (r : Report) : Value :=
  let optional (key : String) (text : Option String) : Members :=
    text.toList.map fun s => (key, .string s)
  .object (("matched", .bool r.isMatched) :: optional "error" r.error ++ optional "path" r.path
    ++ optional "message" r.message)

end Report

end DataMatch
