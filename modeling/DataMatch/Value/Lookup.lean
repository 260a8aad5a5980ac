import DataMatch.Text.Integer
import DataMatch.Value.Basic

/-! Finding a part of a value: by field name, where points lead into nested values, and by signed
position in a list. -/
namespace DataMatch

def positionOf? (segment : String) : Option Nat :=
  (Text.readNatural segment.toList).filter (· < Nat.pow 2 64)

def parseIndex (key : String) : Option Int :=
  (Text.readInteger (Text.trimChars key.toList)).filter fun n =>
    -(Nat.pow 2 63 : Nat) ≤ n ∧ n < (Nat.pow 2 63 : Nat)

/-- The item at a signed position; negative positions count from the end. -/
def resolveIndex {α : Type} (items : List α) (index : Int) : Option α :=
  if 0 ≤ index then items[index.toNat]?
  else if index.natAbs ≤ items.length then items[items.length - index.natAbs]?
  else none

namespace Value

def step? (v : Value) (segment : String) : Option Value :=
  match v with
  | object members => members.lookup segment
  | array items => (positionOf? segment).bind (items[·]?)
  | _ => none

def walk? (v : Value) : List String → Option Value
  | [] => some v
  | segment :: rest => (v.step? segment).bind (walk? · rest)

def splitName (name : String) : List String :=
  (name.toList.splitOn '.').map String.ofList

/-- The part that a field name means: the member of exactly that name if there is one, else what
the segments of the name lead to. -/
def field? (v : Value) (name : String) : Option Value :=
  match v.get? name with
  | some found => some found
  | none => v.walk? (splitName name)

end Value

end DataMatch
