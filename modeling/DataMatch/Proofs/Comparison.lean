import DataMatch.Match.Compare
import DataMatch.Proofs.Traversal

/-! What a comparison comes to, one level at a time. Every walk over the data is balanced, so the
segments that were pushed are gone again after each part that matches, and a comparison can be read
as a function of the path it begins at. -/
namespace DataMatch

theorem compareLiteral_balanced (actual expected : Value) :
    (compareLiteral actual expected).Balanced := by
  unfold compareLiteral
  split
  · exact Walk.settle_balanced _
  · exact Walk.settle_balanced _
  · exact Walk.settle_balanced _

theorem compareDirective_balanced (s : Slots) (op : Operator) (actual expected : Value) :
    (s.compareDirective op actual expected).Balanced := by
  unfold Slots.compareDirective
  split
  · exact Walk.settle_balanced _
  · split
    · exact Walk.settle_balanced _
    · exact Walk.settle_balanced _

theorem walkItems_balanced {walkItem : Value → Walk} (each : ∀ item, (walkItem item).Balanced)
    (position : Nat) (items : List Value) : (walkItems walkItem position items).Balanced := by
  induction items generalizing position with
  | nil => exact Walk.pure_balanced
  | cons item rest ih =>
    exact Walk.bind_balanced (Walk.under_balanced _ (each item)) (ih (position + 1))

theorem walkFields_balanced {fields : Fields}
    (each : ∀ field ∈ fields, ∀ actual, (field.2.walk actual).Balanced)
    (find : String → Option Value) : (Expectation.walkFields find fields).Balanced := by
  induction fields with
  | nil => exact Walk.pure_balanced
  | cons field rest ih =>
    have head := each field List.mem_cons_self (find field.1)
    have tail := ih fun other member => each other (List.mem_cons_of_mem field member)
    exact Walk.bind_balanced (Walk.under_balanced _ head) tail

theorem walkPlain_balanced {walkFields : (String → Option Value) → Walk}
    (each : ∀ find, (walkFields find).Balanced) (names : List String) (actual : Value) :
    (walkPlain names walkFields actual).Balanced := by
  unfold walkPlain
  split
  · exact Walk.settle_balanced _
  · exact each _

theorem walkRecord_balanced {walkFields : (String → Option Value) → Walk}
    (each : ∀ find, (walkFields find).Balanced) (s : Slots) (names : List String) (actual : Value) :
    (s.walkRecord names walkFields actual).Balanced := by
  unfold Slots.walkRecord
  split
  · exact Walk.settle_balanced _
  · exact each _
  · exact walkItems_balanced (walkPlain_balanced each names) 0 _
  · exact Walk.settle_balanced _
  · exact compareDirective_balanced s _ actual _

theorem walk_none (e : Expectation) :
    e.walk none = Walk.settle fun path => .error (.missing path) := by
  cases e <;> rw [Expectation.walk]

theorem walk_literal (actual expected : Value) :
    (Expectation.literal expected).walk (some actual) = compareLiteral actual expected := by
  rw [Expectation.walk]

theorem walk_record (slots : Slots) (fields : Fields) (actual : Value) :
    (Expectation.record slots fields).walk (some actual) =
      slots.walkRecord (fields.map (·.1)) (fun find => Expectation.walkFields find fields)
        actual := by
  rw [Expectation.walk]

theorem demand_none (names : List String) (actual : Value) :
    Slots.none.demand names actual = (fieldSource names actual).map .fields := by
  cases actual <;> rfl

theorem walkPlain_eq_walk (fields : Fields) :
    walkPlain (fields.map (·.1)) (fun find => Expectation.walkFields find fields) =
      fun item => (Expectation.record .none fields).walk (some item) := by
  funext item
  rw [walk_record, Slots.walkRecord, demand_none, walkPlain]
  cases fieldSource (fields.map (·.1)) item <;> rfl

theorem walk_balanced (e : Expectation) (actual : Option Value) : (e.walk actual).Balanced := by
  induction e generalizing actual with
  | literal v =>
    cases actual with
    | none =>
      rw [walk_none]
      exact Walk.settle_balanced _
    | some actual =>
      rw [walk_literal]
      exact compareLiteral_balanced actual v
  | record slots fields ih =>
    cases actual with
    | none =>
      rw [walk_none]
      exact Walk.settle_balanced _
    | some actual =>
      rw [walk_record]
      exact walkRecord_balanced (fun find => walkFields_balanced ih find) slots _ actual

theorem walk_run_eq (e : Expectation) (actual : Option Value) (path : Path) :
    (e.walk actual).run path = match e.compare actual path with
      | .ok () => .ok () path
      | .error f => .error f.error f.location :=
  (walk_balanced e actual).run_eq path

@[simp] theorem compare_none (e : Expectation) (path : Path) :
    e.compare none path = .error ⟨path, .missing path⟩ := by
  rw [Expectation.compare, walk_none, Walk.outcome_settle]
  rfl

theorem compare_literal (actual expected : Value) (path : Path) :
    (Expectation.literal expected).compare (some actual) path =
      (compareLiteral actual expected).outcome path := by
  rw [Expectation.compare, walk_literal]

theorem outcome_walkFields (find : String → Option Value) (fields : Fields) (path : Path) :
    (Expectation.walkFields find fields).outcome path =
      fields.forM fun field => field.2.compare (find field.1) (path.push field.1) := by
  induction fields with
  | nil => rfl
  | cons field rest ih =>
    have head := Walk.under_balanced field.1 (walk_balanced field.2 (find field.1))
    rw [forM_cons, ← ih, Expectation.walkFields, Walk.outcome_bind head, Walk.outcome_under]
    rfl

theorem outcome_walkItems {walkItem : Value → Walk} (each : ∀ item, (walkItem item).Balanced)
    (position : Nat) (items : List Value) (path : Path) :
    (walkItems walkItem position items).outcome path =
      (items.zipIdx position).forM fun item =>
        (walkItem item.1).outcome (path.push (toString item.2)) := by
  induction items generalizing position with
  | nil => rfl
  | cons item rest ih =>
    have head := Walk.under_balanced (toString position) (each item)
    rw [List.zipIdx_cons, forM_cons, ← ih, walkItems, Walk.outcome_bind head, Walk.outcome_under]

theorem compare_record (slots : Slots) (fields : Fields) (actual : Value) (path : Path) :
    (Expectation.record slots fields).compare (some actual) path =
      match slots.demand (fields.map (·.1)) actual with
      | .error m => .error ⟨path, .misuse path m⟩
      | .ok (.fields find) => fields.forM fun field =>
          field.2.compare (find field.1) (path.push field.1)
      | .ok (.forEach items) => items.zipIdx.forM fun item =>
          (Expectation.record .none fields).compare (some item.1) (path.push (toString item.2))
      | .ok (.quantified items q test) =>
        Verdict.at (q.evaluate items test (slots.failureText actual path) path) path
      | .ok (.compared op expected) =>
        (slots.compareDirective op actual expected).outcome path := by
  rw [Expectation.compare, walk_record, Slots.walkRecord]
  cases slots.demand (fields.map (·.1)) actual with
  | error m => exact Walk.outcome_misused m path
  | ok demand =>
    cases demand with
    | fields find => exact outcome_walkFields find fields path
    | forEach items =>
      simp only [walkPlain_eq_walk]
      exact outcome_walkItems (fun item => walk_balanced _ (some item)) 0 items path
    | quantified items q test => exact Walk.outcome_settle _ path
    | compared op expected => rfl

section Check

variable {e : Expectation} {actual : Value}

theorem check_of_ok (passed : e.compare (some actual) .root = .ok ()) : check actual e = .ok () := by
  rw [check, passed]
  rfl

theorem check_of_error {f : Failure} (failed : e.compare (some actual) .root = .error f) :
    check actual e = .error f.error := by
  rw [check, failed]
  rfl

end Check

end DataMatch
