import DataMatch.Binary64.Rounding
import DataMatch.Value.Word

/-! JSON values. Object members keep their order, and integers are apart from doubles. -/
namespace DataMatch

inductive Number where
  | int (n : Int)
  | float (x : Binary64)
deriving DecidableEq

def Number.toDouble : Number → Double
  | int n => Double.ofInt n
  | float x => .finite x

/-- Integers compare as machine words, and exactly where they are too large for one; as soon as one
side is a double, both are taken as doubles. -/
def Number.order : Number → Number → Option Ordering
  | int m, int n => some ((Word.order? m n).getD (compare m n))
  | x, y => x.toDouble.order y.toDouble

inductive Value where
  | null
  | bool (b : Bool)
  | number (n : Number)
  | string (s : String)
  | array (items : List Value)
  | object (members : List (String × Value))

instance : Inhabited Value := ⟨.null⟩

abbrev Members := List (String × Value)

/-- Writes a member. A key that is already there keeps its place and takes the new value. -/
def Members.insert (ms : Members) (key : String) (value : Value) : Members :=
  match ms with
  | [] => [(key, value)]
  | (k, v) :: rest => if k = key then (k, value) :: rest else (k, v) :: Members.insert rest key value

def Members.ofList (ms : List (String × Value)) : Members :=
  ms.foldl (fun acc (k, v) => Members.insert acc k v) []

namespace Value

def int (n : Int) : Value := number (.int n)

def get? : Value → String → Option Value
  | object members, key => members.lookup key
  | _, _ => none

def isContainer : Value → Bool
  | array _ => true
  | object _ => true
  | _ => false

def isNull : Value → Bool
  | null => true
  | _ => false

def isObject : Value → Bool
  | object _ => true
  | _ => false

theorem isObject_of_primitive {v : Value} (primitive : v.isContainer = false) :
    v.isObject = false := by
  cases v with
  | object members => contradiction
  | _ => rfl

def kindName : Value → String
  | null => "null"
  | bool _ => "boolean"
  | number _ => "number"
  | string _ => "string"
  | array _ => "array"
  | object _ => "object"

/-- Induction over a value: a container is reached after all its parts. -/
@[induction_eliminator]
theorem induction {motive : Value → Prop}
    (primitive : ∀ v : Value, v.isContainer = false → motive v)
    (array : ∀ items, (∀ item ∈ items, motive item) → motive (.array items))
    (object : ∀ members : Members, (∀ member ∈ members, motive member.2) →
      motive (.object members)) : ∀ v, motive v
  | .array items => array items fun item member =>
    have smaller : sizeOf item < sizeOf items := List.sizeOf_lt_of_mem member
    induction primitive array object item
  | .object members => object members fun (key, v) member =>
    have smaller : sizeOf v < sizeOf members := by
      have inner := List.sizeOf_lt_of_mem member
      simp only [Prod.mk.sizeOf_spec] at inner
      omega
    induction primitive array object v
  | .null => primitive .null rfl
  | .bool b => primitive (.bool b) rfl
  | .number n => primitive (.number n) rfl
  | .string s => primitive (.string s) rfl

end Value

end DataMatch
