import DataMatch.Expectation.Record
import DataMatch.Proofs.Nesting

/-! What a literal is worth. A primitive stands for the directive that checks `equal` against it; an
array or an object is equal to no value that a literal can meet. -/
namespace DataMatch

theorem Failure.readsLike_refl (f : Failure) : f.ReadsLike f := ⟨rfl, rfl, rfl, fun _ => rfl⟩

theorem Failure.readsLike_of_misuse (path : Path) (m m' : Misuse) :
    Failure.ReadsLike ⟨path, .misuse path m⟩ ⟨path, .misuse path m'⟩ :=
  ⟨rfl, rfl, rfl, fun fits => absurd rfl fits⟩

theorem alike_refl (o : Outcome) : Alike o o := by
  cases o with
  | ok u => trivial
  | error f => exact f.readsLike_refl

theorem Misused.alike {v : Value} {e e' : Expectation} {m m' : Misuse} (first : Misused v e m)
    (second : Misused v e' m') (path : Path) :
    Alike (e.compare (some v) path) (e'.compare (some v) path) := by
  rw [first.compare_eq, second.compare_eq]
  exact Failure.readsLike_of_misuse path m m'

section Directive

variable {v w : Value}

theorem kind_of_equalDirective (w : Value) :
    (Record.directive "equal" w).slots.kind? = some (.compare .equal) := rfl

theorem compare_literal_of_primitives (left : v.isContainer = false) (right : w.isContainer = false)
    (path : Path) :
    (Expectation.literal w).compare (some v) path =
      (Record.directive "equal" w).toExpectation.compare (some v) path := by
  have kind := kind_of_equalDirective w
  have shape : v.isObject = false := Value.isObject_of_primitive left
  have comparable : (Record.directive "equal" w).slots.Comparable v w := fun _ => ⟨left, right⟩
  cases answer : v.looseEq w with
  | true =>
    have literal : Matches (some v) (.literal w) := .literal left answer
    have directive : Matches (some v) (Record.directive "equal" w).toExpectation :=
      .compared shape kind rfl comparable answer
    rw [literal.compare_eq, directive.compare_eq]
  | false =>
    have literal : Differs v (.literal w) := .literal left answer
    have directive : Differs v (Record.directive "equal" w).toExpectation :=
      .compared shape kind rfl comparable answer
    rw [literal.compare_eq, directive.compare_eq]
    rfl

theorem literal_alike (primitive : w.isContainer = false) (actual : Option Value) (path : Path) :
    Alike ((Expectation.literal w).compare actual path)
      ((Record.directive "equal" w).toExpectation.compare actual path) := by
  cases actual with
  | none =>
    rw [compare_none, compare_none]
    exact alike_refl _
  | some v =>
    cases v with
    | object members =>
      have set : (Record.directive "equal" w).slots ≠ .none := nofun
      exact Misused.literalOnObject.alike (.directiveOnObject set) path
    | array items =>
      have raw : ¬ (Record.directive "equal" w).slots.Comparable (.array items) w :=
        fun comparable => nomatch (comparable rfl).1
      have operand := kind_of_equalDirective w
      exact Misused.literalOnArray.alike (.containerOperand rfl operand rfl raw) path
    | _ =>
      rw [compare_literal_of_primitives rfl primitive]
      exact alike_refl _

theorem looseEq_container (primitive : v.isContainer = false) (container : w.isContainer = true) :
    v.looseEq w = false := by
  rw [Value.looseEq, Value.agree_primitive primitive, container]
  rfl

theorem container_literal_differs (container : w.isContainer = true)
    (primitive : v.isContainer = false) (path : Path) :
    (Expectation.literal w).compare (some v) path =
      .error ⟨path, .assertion path s!"Incorrect \"{path}\"."⟩ :=
  (Differs.literal primitive (looseEq_container primitive container)).compare_eq path

theorem literal_misused (container : v.isContainer = true) (w : Value) (path : Path) :
    ∃ m, (Expectation.literal w).compare (some v) path = .error ⟨path, .misuse path m⟩ := by
  cases v with
  | object members => exact ⟨_, Misused.literalOnObject.compare_eq path⟩
  | array items => exact ⟨_, Misused.literalOnArray.compare_eq path⟩
  | _ => contradiction

end Directive

/-- A primitive literal is the `equal` directive. A literal that is an array or an object matches
nothing: it differs from a primitive, and is a mistake where it meets an array or an object. -/
theorem literal_is_equal_directive :
    (∀ w : Value, w.isContainer = false → ∀ (actual : Option Value) (path : Path),
      Alike ((Expectation.literal w).compare actual path)
        ((Record.directive "equal" w).toExpectation.compare actual path)) ∧
    ∀ w : Value, w.isContainer = true → ∀ (v : Value) (path : Path),
      (v.isContainer = false → (Expectation.literal w).compare (some v) path =
        .error ⟨path, .assertion path s!"Incorrect \"{path}\"."⟩) ∧
      (v.isContainer = true → ∃ m, (Expectation.literal w).compare (some v) path =
        .error ⟨path, .misuse path m⟩) := by
  refine ⟨fun w primitive => literal_alike primitive, fun w container v path => ⟨?_, ?_⟩⟩
  · exact fun primitive => container_literal_differs container primitive path
  · exact fun found => literal_misused found w path

theorem literal_is_equal_directive_one :
    (Expectation.literal (.int 1)).compare (some (.int 1)) ⟨["n"]⟩ = .ok () ∧
      (Record.directive "equal" (.int 1)).toExpectation.compare (some (.int 1)) ⟨["n"]⟩ = .ok () ∧
      Alike ((Expectation.literal (.int 1)).compare (some (.int 1)) ⟨["n"]⟩)
        ((Record.directive "equal" (.int 1)).toExpectation.compare (some (.int 1)) ⟨["n"]⟩) ∧
      (Expectation.literal (.array [.int 1])).compare (some (.int 1)) ⟨["n"]⟩ =
        .error ⟨⟨["n"]⟩, .assertion ⟨["n"]⟩ "Incorrect \"n\"."⟩ :=
  ⟨rfl, rfl, literal_is_equal_directive.1 (.int 1) rfl (some (.int 1)) ⟨["n"]⟩,
    (literal_is_equal_directive.2 (.array [.int 1]) rfl (.int 1) ⟨["n"]⟩).1 rfl⟩

end DataMatch
