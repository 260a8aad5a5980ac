import DataMatch.Error
import DataMatch.Value.Basic

/-! Expectations: trees of literals and records. A record has field expectations in order and four
reserved slots, which turn it into a directive. -/
namespace DataMatch

abbrev Predicate := Value → Except CheckError Bool

inductive Operand where
  | value (v : Value)
  | predicate (test : Predicate)

structure Transform where
  name : String
  apply : Value → Value

inductive Message where
  | literal (text : String)
  | render (text : Value → Value → String)

def Message.text : Message → Value → Value → String
  | literal s, _, _ => s
  | render f, actual, expected => f actual expected

structure Slots where
  check : Option String
  operand : Option Operand
  transform : Option Transform
  message : Option Message

namespace Slots

def none : Slots := ⟨.none, .none, .none, .none⟩

def reservedKeys (s : Slots) : List String :=
  [(s.check.isSome, "$check"), (s.operand.isSome, "$value"), (s.transform.isSome, "$func"),
    (s.message.isSome, "$eMessage")].filterMap fun (present, key) =>
      if present then some key else .none

def isEmpty (s : Slots) : Bool :=
  s.check.isNone && s.operand.isNone && s.transform.isNone && s.message.isNone

theorem isEmpty_iff {s : Slots} : s.isEmpty = true ↔ s = none := by
  cases s with
  | mk c o t m => cases c <;> cases o <;> cases t <;> cases m <;> simp [isEmpty, none]

end Slots

inductive Expectation where
  | literal (v : Value)
  /-- Fields of an object, positions of an array, or a directive, by its slots and the value it
  meets. -/
  | record (slots : Slots) (fields : List (String × Expectation))

instance : Inhabited Expectation := ⟨.literal .null⟩

abbrev Fields := List (String × Expectation)

/-- Induction over an expectation: a record is reached after all its fields. -/
@[induction_eliminator]
theorem Expectation.induction {motive : Expectation → Prop}
    (literal : ∀ v, motive (.literal v))
    (record : ∀ slots fields, (∀ field ∈ fields, motive field.2) → motive (.record slots fields)) :
    ∀ e, motive e
  | .literal v => literal v
  | .record slots fields => record slots fields fun (name, child) member =>
    have smaller : sizeOf child < sizeOf fields := by
      have inner := List.sizeOf_lt_of_mem member
      simp only [Prod.mk.sizeOf_spec] at inner
      omega
    Expectation.induction literal record child

/-- What is checked against the whole input: one expectation, or one made from each element. -/
inductive Template where
  | fixed (e : Expectation)
  | each (make : Value → Except CheckError Expectation)

end DataMatch
