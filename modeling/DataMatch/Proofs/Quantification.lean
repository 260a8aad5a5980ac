import DataMatch.Proofs.Matching
import DataMatch.Proofs.Traversal

/-! Quantifiers look at items only as long as nothing has decided: they are satisfied, refuted, or
ended by an error of the test, and `Quantifier.holds` gives the answer of that case. -/
namespace DataMatch

variable {q : Quantifier} {test : Predicate} {passing : Bool} {answer : Except CheckError Bool}
  {items : List Value}

theorem all_pass_or_first_answer (test : Predicate) (passing : Bool) (items : List Value) :
    (∀ item ∈ items, test item = .ok passing) ∨
      ∃ answer, answer ≠ .ok passing ∧ Quantifier.FirstAnswer test passing answer items := by
  have each : ∀ item ∈ items, test item = .ok passing ∨ test item ≠ .ok passing :=
    fun item _ => Classical.em _
  rcases forall_or_exists_first each with all | ⟨before, item, after, split, passed, other⟩
  · exact .inl all
  · exact .inr ⟨test item, other, before, item, after, split, passed, rfl⟩

theorem holds_cons_of_pass {item : Value} {rest : List Value}
    (pass : test item = .ok (q == .every)) : q.holds test (item :: rest) = q.holds test rest := by
  rw [Quantifier.holds, pass]
  cases q <;> rfl

theorem holds_cons_of_other {item : Value} {rest : List Value}
    (other : test item ≠ .ok (q == .every)) : q.holds test (item :: rest) = test item := by
  rw [Quantifier.holds]
  cases answered : test item with
  | error e => rfl
  | ok b =>
    rw [answered] at other
    cases q <;> cases b <;> first
      | rfl
      | exact absurd rfl other

theorem holds_append {before after : List Value}
    (passed : ∀ earlier ∈ before, test earlier = .ok (q == .every)) :
    q.holds test (before ++ after) = q.holds test after := by
  induction before with
  | nil => rfl
  | cons earlier before ih =>
    obtain ⟨head, tail⟩ := List.forall_mem_cons.mp passed
    rw [List.cons_append, holds_cons_of_pass head, ih tail]

theorem holds_of_all_pass (all : ∀ item ∈ items, test item = .ok (q == .every)) :
    q.holds test items = .ok (q == .every) := by
  rw [← List.append_nil items, holds_append all]
  rfl

theorem holds_of_first_answer (other : answer ≠ .ok (q == .every))
    (first : Quantifier.FirstAnswer test (q == .every) answer items) :
    q.holds test items = answer := by
  obtain ⟨before, found, after, rfl, passed, rfl⟩ := first
  rw [holds_append passed, holds_cons_of_other other]

theorem holds_of_satisfied (satisfied : q.Satisfied test items) :
    q.holds test items = .ok true := by
  cases q with
  | some => exact holds_of_first_answer nofun satisfied
  | every => exact holds_of_all_pass satisfied

theorem holds_of_refuted (refuted : q.Refuted test items) : q.holds test items = .ok false := by
  cases q with
  | some => exact holds_of_all_pass refuted
  | every => exact holds_of_first_answer nofun refuted

theorem holds_of_aborted {e : CheckError} (aborted : q.Aborted test items e) :
    q.holds test items = .error e := by
  cases q with
  | some => exact holds_of_first_answer nofun aborted
  | every => exact holds_of_first_answer nofun aborted

theorem quantifier_cases (q : Quantifier) (test : Predicate) (items : List Value) :
    q.Satisfied test items ∨ q.Refuted test items ∨ ∃ e, q.Aborted test items e := by
  rcases all_pass_or_first_answer test (q == .every) items with all | ⟨answer, other, first⟩
  · cases q with
    | some => exact .inr (.inl all)
    | every => exact .inl all
  · cases answer with
    | error e =>
      cases q with
      | some => exact .inr (.inr ⟨e, first⟩)
      | every => exact .inr (.inr ⟨e, first⟩)
    | ok b =>
      cases q <;> cases b <;> first
        | exact absurd rfl other
        | exact .inl first
        | exact .inr (.inl first)

def Quantifier.Answers (q : Quantifier) (test : Predicate) (items : List Value) :
    Except CheckError Bool → Prop
  | .ok true => q.Satisfied test items
  | .ok false => q.Refuted test items
  | .error e => q.Aborted test items e

theorem answers_iff : q.Answers test items answer ↔ q.holds test items = answer := by
  constructor
  · intro given
    cases answer with
    | error e => exact holds_of_aborted given
    | ok b =>
      cases b with
      | true => exact holds_of_satisfied given
      | false => exact holds_of_refuted given
  · rintro rfl
    rcases quantifier_cases q test items with satisfied | refuted | ⟨e, aborted⟩
    · rw [holds_of_satisfied satisfied]
      exact satisfied
    · rw [holds_of_refuted refuted]
      exact refuted
    · rw [holds_of_aborted aborted]
      exact aborted

section Verdicts

variable {message : String} {path : Path}

theorem evaluate_of_satisfied (satisfied : q.Satisfied test items) :
    q.evaluate items test message path = .ok () := by
  rw [Quantifier.evaluate, holds_of_satisfied satisfied]
  rfl

theorem evaluate_of_refuted (refuted : q.Refuted test items) :
    q.evaluate items test message path = .error (.assertion path message) := by
  rw [Quantifier.evaluate, holds_of_refuted refuted]
  rfl

theorem evaluate_of_aborted {e : CheckError} (aborted : q.Aborted test items e) :
    q.evaluate items test message path = .error e := by
  rw [Quantifier.evaluate, holds_of_aborted aborted]
  rfl

end Verdicts

end DataMatch
