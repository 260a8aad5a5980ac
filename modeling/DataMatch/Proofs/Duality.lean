import DataMatch.Proofs.Quantification

/-! `some` and `every` are one loop. Turned into the other by denying the test, each gives the
opposite answer and the same errors; and where the test gives none, the order of the items has no
say. -/
namespace DataMatch

def Quantifier.dual : Quantifier → Quantifier
  | some => every
  | every => some

def Predicate.negated (test : Predicate) : Predicate := fun item => (test item).map not

section Answers

variable {q : Quantifier} {test : Predicate} {items items' : List Value} {item : Value}

theorem negated_passes_iff :
    test.negated item = .ok (q.dual == .every) ↔ test item = .ok (q == .every) := by
  rw [Predicate.negated]
  cases test item with
  | error e => exact ⟨nofun, nofun⟩
  | ok b => cases q <;> cases b <;> simp [Except.map, Quantifier.dual]

theorem holds_dual (q : Quantifier) (test : Predicate) (items : List Value) :
    q.dual.holds test.negated items = (q.holds test items).map not := by
  induction items with
  | nil => cases q <;> rfl
  | cons item rest ih =>
    by_cases pass : test item = .ok (q == .every)
    · rw [holds_cons_of_pass pass, holds_cons_of_pass (negated_passes_iff.mpr pass), ih]
    · rw [holds_cons_of_other pass, holds_cons_of_other (mt negated_passes_iff.mp pass)]
      rfl

theorem answers_dual (answer : Except CheckError Bool) :
    q.dual.Answers test.negated items (answer.map not) ↔ q.Answers test items answer := by
  rw [answers_iff, answers_iff, holds_dual]
  cases q.holds test items with
  | error e => cases answer <;> simp [Except.map]
  | ok b => cases answer <;> simp [Except.map]

theorem satisfied_iff_dual_refuted :
    q.Satisfied test items ↔ q.dual.Refuted test.negated items := (answers_dual (.ok true)).symm

theorem aborted_iff_dual_aborted {e : CheckError} :
    q.Aborted test items e ↔ q.dual.Aborted test.negated items e := (answers_dual (.error e)).symm

theorem holds_of_decisive (answers : ∀ item ∈ items, ∃ b, test item = .ok b)
    (decisive : ¬ ∀ item ∈ items, test item = .ok (q == .every)) :
    q.holds test items = .ok !(q == .every) := by
  rcases all_pass_or_first_answer test (q == .every) items with all | ⟨answer, other, first⟩
  · exact absurd all decisive
  · have answered : ∃ b, answer = .ok b := by
      obtain ⟨before, item, after, rfl, -, rfl⟩ := first
      exact answers item (by simp)
    obtain ⟨b, rfl⟩ := answered
    have opposite : b = !(q == .every) := Bool.eq_not_of_ne fun same => other (same ▸ rfl)
    rw [holds_of_first_answer other first, opposite]

theorem holds_perm (reordered : items.Perm items')
    (answers : ∀ item ∈ items, ∃ b, test item = .ok b) :
    q.holds test items = q.holds test items' := by
  by_cases all : ∀ item ∈ items, test item = .ok (q == .every)
  · have all' : ∀ item ∈ items', test item = .ok (q == .every) :=
      fun item member => all item (reordered.mem_iff.mpr member)
    rw [holds_of_all_pass all, holds_of_all_pass all']
  · have answers' : ∀ item ∈ items', ∃ b, test item = .ok b :=
      fun item member => answers item (reordered.mem_iff.mpr member)
    have decisive : ¬ ∀ item ∈ items', test item = .ok (q == .every) :=
      fun all' => all fun item member => all' item (reordered.mem_iff.mp member)
    rw [holds_of_decisive answers all, holds_of_decisive answers' decisive]

end Answers

section Verdicts

variable {q : Quantifier} {test : Predicate} {items : List Value} {message : String} {path : Path}

theorem evaluate_eq_ok_iff :
    q.evaluate items test message path = .ok () ↔ q.Satisfied test items := by
  refine ⟨fun passed => ?_, evaluate_of_satisfied⟩
  rcases quantifier_cases q test items with satisfied | refuted | ⟨e, aborted⟩
  · exact satisfied
  · exact nomatch (evaluate_of_refuted refuted).symm.trans passed
  · exact nomatch (evaluate_of_aborted aborted).symm.trans passed

theorem evaluate_of_decided {before after : List Value} {item : Value}
    (passed : ∀ earlier ∈ before, test earlier = .ok (q == .every))
    (decides : test item ≠ .ok (q == .every)) :
    q.evaluate (before ++ item :: after) test message path =
      (test item).bind fun holds => ensure holds message path := by
  rw [Quantifier.evaluate, holds_append passed, holds_cons_of_other decides]
  rfl

end Verdicts

/-- How a quantifier comes to its verdict. `some` goes on past `false` and `every` past `true`; the
first item that answers anything else decides. -/
structure Quantifier.ShortCircuits (q : Quantifier) (test : Predicate) (message : String)
    (path : Path) : Prop where
  cases : ∀ items, q.Satisfied test items ∨ q.Refuted test items ∨ ∃ e, q.Aborted test items e
  satisfied : ∀ items, q.Satisfied test items → q.evaluate items test message path = .ok ()
  refuted : ∀ items, q.Refuted test items →
    q.evaluate items test message path = .error (.assertion path message)
  aborted : ∀ items e, q.Aborted test items e → q.evaluate items test message path = .error e
  rest_irrelevant : ∀ before item after after',
    (∀ earlier ∈ before, test earlier = .ok (q == .every)) → test item ≠ .ok (q == .every) →
      q.evaluate (before ++ item :: after) test message path =
        q.evaluate (before ++ item :: after') test message path
  /-- The assertion is told from an error of the test, which may have the same wording. -/
  dual : ∀ items, q.evaluate items test message path = .ok () ↔
    q.dual.Refuted test.negated items ∧
      q.dual.evaluate items test.negated message path = .error (.assertion path message)
  same_error : ∀ items e,
    q.Aborted test items e ∧ q.evaluate items test message path = .error e ↔
      q.dual.Aborted test.negated items e ∧
        q.dual.evaluate items test.negated message path = .error e
  reorder : ∀ items items', items.Perm items' → (∀ item ∈ items, ∃ b, test item = .ok b) →
    q.evaluate items test message path = q.evaluate items' test message path

/-- Quantifiers short-circuit in the presence of errors. -/
theorem quantifiers_short_circuit (q : Quantifier) (test : Predicate) (message : String)
    (path : Path) : q.ShortCircuits test message path where
  cases := quantifier_cases q test
  satisfied _ := evaluate_of_satisfied
  refuted _ := evaluate_of_refuted
  aborted _ _ := evaluate_of_aborted
  rest_irrelevant before item after after' passed decides := by
    rw [evaluate_of_decided passed decides, evaluate_of_decided passed decides]
  dual items := by
    rw [evaluate_eq_ok_iff, satisfied_iff_dual_refuted]
    exact ⟨fun refuted => ⟨refuted, evaluate_of_refuted refuted⟩, And.left⟩
  same_error items e := by
    constructor
    · rintro ⟨aborted, -⟩
      have other := aborted_iff_dual_aborted.mp aborted
      exact ⟨other, evaluate_of_aborted other⟩
    · rintro ⟨other, -⟩
      have aborted := aborted_iff_dual_aborted.mpr other
      exact ⟨aborted, evaluate_of_aborted aborted⟩
  reorder items items' reordered answers := by
    rw [Quantifier.evaluate, Quantifier.evaluate, holds_perm reordered answers]

def positive : Predicate
  | .number (.int n) => .ok (0 < n)
  | _ => .error (.missing .root)

theorem quantifiers_short_circuit_positive :
    Quantifier.some.evaluate [.int (-1), .int 2, .null] positive "none" ⟨["n"]⟩ = .ok () ∧
      Quantifier.every.evaluate [.int (-1), .int 2, .null] positive.negated "none" ⟨["n"]⟩ =
        .error (.assertion ⟨["n"]⟩ "none") ∧
      Quantifier.every.evaluate [.int 2, .null, .int (-1)] positive "none" ⟨["n"]⟩ =
        .error (.missing .root) ∧
      Quantifier.some.ShortCircuits positive "none" ⟨["n"]⟩ :=
  ⟨rfl, rfl, rfl, quantifiers_short_circuit .some positive "none" ⟨["n"]⟩⟩

end DataMatch
