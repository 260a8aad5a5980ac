import DataMatch.Proofs.Equality
import DataMatch.Proofs.Soundness
import DataMatch.Transform

/-! Comparing through a transform. Both sides go through it, so a directive asks its question of
what the transform makes of them, whatever its message and the fields beside it. -/
namespace DataMatch

namespace Transform

def directive (f : Transform) (check : String) (expected : Value) (message : Option Message)
    (fields : Fields) : Expectation :=
  .record ⟨some check, some (.value expected), some f, message⟩ fields

variable {f : Transform} {check : String} {op : Operator} {v w : Value}

theorem directive_passes_iff (named : CheckKind.named? check = some (.compare op))
    (shape : v.isObject = false) (message : Option Message) (fields : Fields) (path : Path) :
    (f.directive check w message fields).compare (some v) path = .ok () ↔
      op.holds (f.apply v) (f.apply w) = true := by
  have kind : Slots.kind? ⟨some check, some (.value w), some f, message⟩ = some (.compare op) :=
    kind_of_check rfl named
  have comparable : Slots.Comparable ⟨some check, some (.value w), some f, message⟩ v w := nofun
  constructor
  · intro passed
    cases answer : op.holds (f.apply v) (f.apply w) with
    | true => rfl
    | false =>
      have differs : Differs v (f.directive check w message fields) :=
        .compared shape kind rfl comparable answer
      rw [differs.compare_eq path] at passed
      contradiction
  · intro holds
    exact Matches.compare_eq (.compared shape kind rfl comparable holds) path

def equalities : List String := ["==", "===", "equal", "strictEqual"]

theorem exists_equality (member : check ∈ equalities) :
    ∃ op : Operator, CheckKind.named? check = some (.compare op) ∧
      (op.holds = Value.looseEq ∨ op.holds = Value.strictEq) := by
  simp only [equalities, List.mem_cons, List.not_mem_nil, or_false] at member
  rcases member with rfl | rfl | rfl | rfl
  · exact ⟨.looseEq, rfl, .inl rfl⟩
  · exact ⟨.strictEq, rfl, .inr rfl⟩
  · exact ⟨.equal, rfl, .inl rfl⟩
  · exact ⟨.strictEqual, rfl, .inr rfl⟩

theorem equality_of_texts {s t : String} (member : check ∈ equalities)
    (left : f.apply v = .string s) (right : f.apply w = .string t) (shape : v.isObject = false)
    (message : Option Message) (fields : Fields) (path : Path) :
    (f.directive check w message fields).compare (some v) path = .ok () ↔ s = t := by
  obtain ⟨op, named, equality⟩ := exists_equality member
  rw [directive_passes_iff named shape, left, right]
  rcases equality with loose | strict
  · rw [loose]
    exact beq_iff_eq
  · rw [strict]
    exact beq_iff_eq

theorem equality_of_same (member : check ∈ equalities) (same : f.apply v = f.apply w)
    (distinct : (f.apply w).DistinctKeys) (shape : v.isObject = false)
    (message : Option Message) (fields : Fields) (path : Path) :
    (f.directive check w message fields).compare (some v) path = .ok () := by
  obtain ⟨op, named, equality⟩ := exists_equality member
  rw [directive_passes_iff named shape, same]
  rcases equality with loose | strict
  · rw [loose]
    exact Value.looseEq_self distinct
  · rw [strict]
    exact Value.strictEq_self distinct

end Transform

end DataMatch
