import DataMatch.Proofs.Comparison
import DataMatch.Proofs.Quantification

/-! The relations are sound: what they say of a value and an expectation is what the comparison
gives. -/
namespace DataMatch

section Demands

variable {s : Slots} {v expected : Value} {items : List Value} {op : Operator} {kind : CheckKind}

theorem resolve_of_kind (h : s.kind? = some kind) :
    ∃ name, s.check = some name ∧ CheckKind.resolve name = .ok kind := by
  obtain ⟨name, check, named⟩ := Option.bind_eq_some_iff.mp h
  refine ⟨name, check, ?_⟩
  rw [CheckKind.resolve, named]

theorem kind_of_check {name : String} (check : s.check = some name)
    (named : CheckKind.named? name = some kind) : s.kind? = some kind := by
  rw [Slots.kind?, check, Option.bind_some, named]

theorem demand_of_forEach (h : s.kind? = some .forEach) (names : List String) :
    s.demand names (.array items) = .ok (.forEach items) := by
  obtain ⟨name, check, resolved⟩ := resolve_of_kind h
  simp only [Slots.demand, check, resolved]
  rfl

theorem demand_of_quantify {q : Quantifier} (h : s.kind? = some (.quantify q))
    (names : List String) : s.demand names (.array items) = s.quantification q items := by
  obtain ⟨name, check, resolved⟩ := resolve_of_kind h
  simp only [Slots.demand, check, resolved]
  rfl

theorem demand_of_compare (shape : v.isObject = false) (h : s.kind? = some (.compare op))
    (names : List String) : s.demand names v = s.comparison op := by
  obtain ⟨name, check, resolved⟩ := resolve_of_kind h
  cases v with
  | object members => contradiction
  | _ =>
    simp only [Slots.demand, check, resolved]
    rfl

theorem demand_of_unknown {name : String} (shape : v.isObject = false) (check : s.check = some name)
    (unknown : CheckKind.named? name = none) (names : List String) :
    s.demand names v = .error (.undefinedOperator name) := by
  cases v with
  | object members => contradiction
  | _ =>
    simp only [Slots.demand, check, CheckKind.resolve, unknown]
    rfl

theorem demand_of_primitive (primitive : v.isContainer = false) (h : s.kind? = some kind)
    (other : ∀ op, kind ≠ .compare op) (names : List String) :
    s.demand names v = .error .notArray := by
  obtain ⟨name, check, resolved⟩ := resolve_of_kind h
  cases v with
  | object members => contradiction
  | array items => contradiction
  | _ =>
    simp only [Slots.demand, check, resolved]
    cases kind with
    | compare op => exact absurd rfl (other op)
    | _ => rfl

theorem isEmpty_eq_false (set : s ≠ .none) : s.isEmpty = false := by
  rw [← Bool.not_eq_true]
  exact fun h => set (Slots.isEmpty_iff.mp h)

theorem demand_of_slots {members : Members} (set : s ≠ .none) (names : List String) :
    s.demand names (.object members) = .error .directiveOnObject := by
  rw [Slots.demand_object, isEmpty_eq_false set]
  rfl

theorem demand_of_unchecked (set : s ≠ .none) (unchecked : s.check = none) (names : List String) :
    s.demand names (.array items) = .error .checkRequired := by
  rw [Slots.demand_unchecked unchecked, isEmpty_eq_false set]
  rfl

theorem demand_of_unchecked_primitive (primitive : v.isContainer = false)
    (unchecked : s.check = none) (names : List String) :
    s.demand names v = .error .checkRequired := by
  cases v with
  | object members => contradiction
  | array items => contradiction
  | _ => simp only [Slots.demand, unchecked]

theorem directive_on_array_cases (set : s ≠ .none) (fields : Fields) :
    (∃ m, ∀ items, Misused (.array items) (.record s fields) m) ∨ s.kind? = some .forEach ∨
      (∃ q test, s.kind? = some (.quantify q) ∧ s.operand = some (.predicate test)) ∨
      ∃ op expected, s.kind? = some (.compare op) ∧ s.operand = some (.value expected) := by
  cases check : s.check with
  | none => exact .inl ⟨_, fun _ => .uncheckedOnArray set check⟩
  | some name =>
    cases named : CheckKind.named? name with
    | none => exact .inl ⟨_, fun _ => .undefinedOperator rfl check named⟩
    | some kind =>
      have kinded : s.kind? = some kind := kind_of_check check named
      cases kind with
      | forEach => exact .inr (.inl kinded)
      | quantify q =>
        cases operand : s.operand with
        | none => exact .inl ⟨_, fun _ => .quantifierWithoutOperand kinded operand⟩
        | some o =>
          cases o with
          | value expected => exact .inl ⟨_, fun _ => .valueForQuantifier kinded operand⟩
          | predicate test => exact .inr (.inr (.inl ⟨q, test, kinded, rfl⟩))
      | compare op =>
        cases operand : s.operand with
        | none => exact .inl ⟨_, fun _ => .comparisonWithoutOperand rfl kinded operand⟩
        | some o =>
          cases o with
          | predicate test => exact .inl ⟨_, fun _ => .predicateForComparison rfl kinded operand⟩
          | value expected => exact .inr (.inr (.inr ⟨op, expected, kinded, rfl⟩))

end Demands

section Nodes

variable {s : Slots} {fields : Fields} {v expected : Value} {items : List Value} {op : Operator}

theorem fieldSource_of_integers
    (integers : ∀ field ∈ fields, (parseIndex field.1).isSome = true) :
    fieldSource (fields.map (·.1)) (.array items) =
      .ok fun name => (parseIndex name).bind (resolveIndex items) := by
  have all : (fields.map (·.1)).all (fun name => (parseIndex name).isSome) = true := by
    rw [List.all_map]
    exact List.all_eq_true.mpr integers
  rw [fieldSource, if_pos all]

theorem fieldSource_of_name {field : String × Expectation} (member : field ∈ fields)
    (name : parseIndex field.1 = none) :
    fieldSource (fields.map (·.1)) (.array items) = .error .nameOnArray := by
  have notAll : ¬ (fields.map (·.1)).all (fun name => (parseIndex name).isSome) = true := by
    intro all
    rw [List.all_map] at all
    have integer := List.all_eq_true.mp all field member
    simp [name] at integer
  rw [fieldSource, if_neg notAll]

theorem compare_object (fields : Fields) (members : Members) (path : Path) :
    (Expectation.record .none fields).compare (some (.object members)) path =
      fields.forM fun field =>
        field.2.compare ((Value.object members).field? field.1) (path.push field.1) := by
  rw [compare_record, demand_none]
  rfl

theorem compare_positions (integers : ∀ field ∈ fields, (parseIndex field.1).isSome = true)
    (items : List Value) (path : Path) :
    (Expectation.record .none fields).compare (some (.array items)) path =
      fields.forM fun field =>
        field.2.compare ((parseIndex field.1).bind (resolveIndex items)) (path.push field.1) := by
  rw [compare_record, demand_none, fieldSource_of_integers integers]
  rfl

theorem compare_forEach (kind : s.kind? = some .forEach) (fields : Fields) (items : List Value)
    (path : Path) :
    (Expectation.record s fields).compare (some (.array items)) path =
      items.zipIdx.forM fun item =>
        (Expectation.record .none fields).compare (some item.1) (path.push (toString item.2)) := by
  rw [compare_record, demand_of_forEach kind]

theorem compare_quantified {q : Quantifier} {test : Predicate}
    (kind : s.kind? = some (.quantify q)) (operand : s.operand = some (.predicate test))
    (fields : Fields) (items : List Value) (path : Path) :
    (Expectation.record s fields).compare (some (.array items)) path =
      Verdict.at (q.evaluate items test (s.failureText (.array items) path) path) path := by
  rw [compare_record, demand_of_quantify kind, Slots.quantification, operand]

theorem compare_compared (shape : v.isObject = false) (kind : s.kind? = some (.compare op))
    (operand : s.operand = some (.value expected)) (fields : Fields) (path : Path) :
    (Expectation.record s fields).compare (some v) path =
      (s.compareDirective op v expected).outcome path := by
  rw [compare_record, demand_of_compare shape kind, Slots.comparison, operand]

theorem evaluate_of_holds {expected : Value} (holds : op.holds v expected = true)
    (message : String) (path : Path) :
    Verdict.at (op.evaluate v expected message path) path = .ok () := by
  rw [Operator.evaluate, holds]
  rfl

theorem evaluate_of_fails {expected : Value} (fails : op.holds v expected = false)
    (message : String) (path : Path) :
    Verdict.at (op.evaluate v expected message path) path =
      .error ⟨path, .assertion path message⟩ := by
  rw [Operator.evaluate, fails]
  rfl

theorem compareDirective_of_comparable (comparable : s.Comparable v expected) (op : Operator)
    (path : Path) :
    (s.compareDirective op v expected).outcome path =
      Verdict.at (op.evaluate (s.prepared v) (s.prepared expected) (s.failureText v path) path)
        path := by
  unfold Slots.compareDirective Slots.prepared
  cases transform : s.transform with
  | some t => exact Walk.outcome_settle _ path
  | none =>
    obtain ⟨left, right⟩ := comparable transform
    simp only [left, right]
    exact Walk.outcome_settle _ path

theorem compareDirective_of_raw (raw : ¬ s.Comparable v expected) (op : Operator) (path : Path) :
    (s.compareDirective op v expected).outcome path =
      .error ⟨path, .misuse path (.containerOperand v.kindName expected.kindName)⟩ := by
  unfold Slots.compareDirective
  cases transform : s.transform with
  | some t => exact absurd (fun h => nomatch transform.symm.trans h) raw
  | none =>
    have container : (v.isContainer || expected.isContainer) = true := by
      rw [← Bool.not_eq_false, Bool.or_eq_false_iff]
      exact fun both => raw fun _ => both
    simp only [container]
    exact Walk.outcome_misused _ path

theorem compareLiteral_of_primitive (primitive : v.isContainer = false) (expected : Value)
    (path : Path) :
    (compareLiteral v expected).outcome path =
      Verdict.at (Operator.equal.evaluate v expected s!"Incorrect \"{path}\"." path) path := by
  cases v with
  | object members => contradiction
  | array items => contradiction
  | _ => exact Walk.outcome_settle _ path

end Nodes

theorem Matches.compare_eq {actual : Option Value} {e : Expectation} (h : Matches actual e)
    (path : Path) : e.compare actual path = .ok () := by
  induction h generalizing path with
  | literal primitive equal =>
    rw [compare_literal, compareLiteral_of_primitive primitive]
    have holds : Operator.equal.holds _ _ = true := equal
    exact evaluate_of_holds holds _ path
  | object each ih =>
    rw [compare_object]
    exact forM_eq_ok_iff.mpr fun field member => ih field member _
  | positions integers each ih =>
    rw [compare_positions integers]
    exact forM_eq_ok_iff.mpr fun field member => ih field member _
  | forEach kind each ih =>
    rw [compare_forEach kind]
    exact forM_eq_ok_iff.mpr fun item member => ih item.1 (List.fst_mem_of_mem_zipIdx member) _
  | quantified kind operand satisfied =>
    rw [compare_quantified kind operand, evaluate_of_satisfied satisfied]
    rfl
  | compared shape kind operand comparable holds =>
    rw [compare_compared shape kind operand, compareDirective_of_comparable comparable]
    exact evaluate_of_holds holds _ path

theorem Misused.compare_eq {v : Value} {e : Expectation} {m : Misuse} (h : Misused v e m)
    (path : Path) : e.compare (some v) path = .error ⟨path, .misuse path m⟩ := by
  cases h with
  | literalOnObject => exact compare_literal _ _ path
  | literalOnArray => exact compare_literal _ _ path
  | directiveOnObject set => rw [compare_record, demand_of_slots set]
  | uncheckedOnArray set unchecked => rw [compare_record, demand_of_unchecked set unchecked]
  | nameOnArray member name =>
    rw [compare_record, demand_none, fieldSource_of_name member name]
    rfl
  | uncheckedOnPrimitive primitive unchecked =>
    rw [compare_record, demand_of_unchecked_primitive primitive unchecked]
  | undefinedOperator shape check unknown =>
    rw [compare_record, demand_of_unknown shape check unknown]
  | forEachOnPrimitive primitive kind =>
    rw [compare_record, demand_of_primitive primitive kind nofun]
  | quantifierOnPrimitive primitive kind =>
    rw [compare_record, demand_of_primitive primitive kind nofun]
  | quantifierWithoutOperand kind operand =>
    rw [compare_record, demand_of_quantify kind, Slots.quantification, operand]
  | valueForQuantifier kind operand =>
    rw [compare_record, demand_of_quantify kind, Slots.quantification, operand]
  | comparisonWithoutOperand shape kind operand =>
    rw [compare_record, demand_of_compare shape kind, Slots.comparison, operand]
  | predicateForComparison shape kind operand =>
    rw [compare_record, demand_of_compare shape kind, Slots.comparison, operand]
  | containerOperand shape kind operand raw =>
    rw [compare_compared shape kind operand]
    exact compareDirective_of_raw raw _ path

theorem Differs.compare_eq {v : Value} {e : Expectation} (h : Differs v e) (path : Path) :
    e.compare (some v) path = .error ⟨path, .assertion path (e.failureText v path)⟩ := by
  cases h with
  | literal primitive unequal =>
    rw [compare_literal, compareLiteral_of_primitive primitive]
    have fails : Operator.equal.holds _ _ = false := unequal
    exact evaluate_of_fails fails _ path
  | compared shape kind operand comparable fails =>
    rw [compare_compared shape kind operand, compareDirective_of_comparable comparable]
    exact evaluate_of_fails fails _ path
  | quantified kind operand refuted =>
    rw [compare_quantified kind operand, evaluate_of_refuted refuted]
    rfl

theorem PredicateFault.compare_eq {actual : Option Value} {e : Expectation} {path : Path}
    {err : CheckError} (h : PredicateFault actual e path err) :
    e.compare actual path = .error ⟨path, err⟩ := by
  cases h with
  | aborted kind operand aborted =>
    rw [compare_quantified kind operand, evaluate_of_aborted aborted]
    rfl

theorem Ends.compare_eq {actual : Option Value} {e : Expectation} {path : Path} {err : CheckError}
    (h : Ends actual e path err) : e.compare actual path = .error ⟨path, err⟩ := by
  rcases h with (fault | fault)
  · cases fault with
    | missing => exact compare_none e path
    | misused h => exact h.compare_eq path
    | differs h => exact h.compare_eq path
  · exact fault.compare_eq

theorem zipIdx_split (before after : List Value) (item : Value) :
    (before ++ item :: after).zipIdx =
      before.zipIdx ++ (item, before.length) :: after.zipIdx (before.length + 1) := by
  rw [List.zipIdx_append, Nat.zero_add, List.zipIdx_cons]

theorem exists_split_of_zipIdx {items : List Value} {before after : List (Value × Nat)}
    {item : Value} {position : Nat} (split : items.zipIdx = before ++ (item, position) :: after) :
    ∃ firsts lasts, items = firsts ++ item :: lasts ∧ before = firsts.zipIdx ∧
      position = firsts.length := by
  obtain ⟨firsts, rest, rfl, first, second⟩ := List.zipIdx_eq_append_iff.mp split
  obtain ⟨found, lasts, rfl, same, _⟩ := List.zipIdx_eq_cons_iff.mp second.symm
  cases same
  exact ⟨firsts, lasts, rfl, first, Nat.zero_add _⟩

theorem FirstFailure.compare_eq {actual : Option Value} {e : Expectation} {path : Path}
    {f : Failure} (h : FirstFailure Ends actual e path f) : e.compare actual path = .error f := by
  induction h with
  | here h => exact h.compare_eq
  | field passed below ih =>
    rw [compare_object]
    exact forM_eq_error_of_first (fun field member => (passed field member).compare_eq _) ih
  | position integers passed below ih =>
    rw [compare_positions integers]
    exact forM_eq_error_of_first (fun field member => (passed field member).compare_eq _) ih
  | item kind passed below ih =>
    rw [compare_forEach kind, zipIdx_split]
    refine forM_eq_error_of_first (fun earlier member => ?_) ih
    exact (passed earlier.1 (List.fst_mem_of_mem_zipIdx member)).compare_eq _

end DataMatch
