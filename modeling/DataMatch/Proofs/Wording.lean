import DataMatch.Document
import DataMatch.Proofs.Soundness

/-! Messages of one's own decide nothing. Whatever `$eMessage` says beside a `$check`, and whether
it is there at all, the same values match, and a failure that is no assertion is reported word for
word. -/
namespace DataMatch

def Slots.reword (s : Slots) (text : Option Message) : Slots := { s with message := text }

/-- The second expectation comes from the first by setting, replacing and removing messages beside a
`$check`, at any depth and in the expectations that quantifiers test items by. -/
inductive Reworded : Expectation → Expectation → Prop
  | same {e : Expectation} : Reworded e e
  | trans {x y z : Expectation} (first : Reworded x y) (second : Reworded y z) : Reworded x z
  | message {s : Slots} {fields : Fields} {name : String} {text : Option Message}
      (checked : s.check = some name) :
      Reworded (.record s fields) (.record (s.reword text) fields)
  | field {s : Slots} {before after : Fields} {name : String} {e e' : Expectation}
      (inner : Reworded e e') :
      Reworded (.record s (before ++ (name, e) :: after))
        (.record s (before ++ (name, e') :: after))
  | element {s : Slots} {fields : Fields} {e e' : Expectation} (inner : Reworded e e')
      (operand : s.operand = some (.predicate (Document.satisfies e))) :
      Reworded (.record s fields)
        (.record { s with operand := some (.predicate (Document.satisfies e')) } fields)

inductive SameVerdict : Outcome → Outcome → Prop
  | passed : SameVerdict (.ok ()) (.ok ())
  | failed (f : Failure) : SameVerdict (.error f) (.error f)
  | reworded (location : Path) (path message message' : String) :
      SameVerdict (.error ⟨location, ⟨.assertion, path, message⟩⟩)
        (.error ⟨location, ⟨.assertion, path, message'⟩⟩)

def SameVerdicts (e e' : Expectation) : Prop :=
  ∀ actual path, SameVerdict (e.compare actual path) (e'.compare actual path)

section Outcomes

variable {x y z next next' : Outcome} {α : Type} {f g : α → Outcome}

theorem SameVerdict.refl (x : Outcome) : SameVerdict x x := by
  cases x with
  | ok u => exact .passed
  | error f => exact .failed f

theorem SameVerdict.trans (first : SameVerdict x y) (second : SameVerdict y z) :
    SameVerdict x z := by
  cases first with
  | passed => exact second
  | failed f => exact second
  | reworded location path message message' =>
    cases second with
    | failed f => exact .reworded location path message message'
    | reworded _ _ _ message'' => exact .reworded location path message message''

theorem SameVerdict.bind (first : SameVerdict x y) (second : SameVerdict next next') :
    SameVerdict (do x; next) (do y; next') := by
  cases first with
  | passed => exact second
  | failed f => exact .failed f
  | reworded location path message message' => exact .reworded location path message message'

theorem SameVerdict.forM {xs : List α} (each : ∀ x ∈ xs, SameVerdict (f x) (g x)) :
    SameVerdict (xs.forM f) (xs.forM g) := by
  induction xs with
  | nil => exact .passed
  | cons x xs ih =>
    obtain ⟨head, tail⟩ := List.forall_mem_cons.mp each
    rw [forM_cons, forM_cons]
    exact head.bind (ih tail)

end Outcomes

theorem SameVerdicts.of_present {e e' : Expectation}
    (present : ∀ v path, SameVerdict (e.compare (some v) path) (e'.compare (some v) path)) :
    SameVerdicts e e' := by
  intro actual path
  cases actual with
  | none =>
    rw [compare_none, compare_none]
    exact .failed _
  | some v => exact present v path

section Messages

variable {s : Slots} {fields : Fields} {message message' : String} {path : Path}

theorem ensure_reworded (passed : Bool) :
    SameVerdict (Verdict.at (ensure passed message path) path)
      (Verdict.at (ensure passed message' path) path) := by
  cases passed with
  | true => exact .passed
  | false => exact .reworded path path.text message message'

theorem quantifier_reworded (q : Quantifier) (items : List Value) (test : Predicate) :
    SameVerdict (Verdict.at (q.evaluate items test message path) path)
      (Verdict.at (q.evaluate items test message' path) path) := by
  unfold Quantifier.evaluate
  cases q.holds test items with
  | error err => exact .refl _
  | ok holds => exact ensure_reworded holds

theorem compareDirective_reworded (s : Slots) (text : Option Message) (op : Operator)
    (actual expected : Value) :
    SameVerdict ((s.compareDirective op actual expected).outcome path)
      (((s.reword text).compareDirective op actual expected).outcome path) := by
  have same : (s.reword text).transform = s.transform := rfl
  unfold Slots.compareDirective
  rw [same]
  cases s.transform with
  | some t =>
    simp only [Walk.outcome_settle]
    exact ensure_reworded _
  | none =>
    cases actual.isContainer || expected.isContainer with
    | true => exact .refl _
    | false =>
      simp only [Bool.false_eq_true, if_false, Walk.outcome_settle]
      exact ensure_reworded _

/-- A message is a slot, but a record with `$check` is a directive without it too. -/
theorem demand_reworded {name : String} (checked : s.check = some name) (text : Option Message)
    (names : List String) (v : Value) :
    (s.reword text).demand names v = s.demand names v := by
  obtain ⟨check, operand, transform, message⟩ := s
  cases checked
  cases v <;> rfl

theorem message_reworded {name : String} (checked : s.check = some name) (text : Option Message) :
    SameVerdicts (.record s fields) (.record (s.reword text) fields) := by
  refine SameVerdicts.of_present fun v path => ?_
  rw [compare_record, compare_record, demand_reworded checked]
  cases s.demand (fields.map (·.1)) v with
  | error m => exact .failed _
  | ok demand =>
    cases demand with
    | fields find => exact .refl _
    | forEach items => exact .refl _
    | quantified items q test => exact quantifier_reworded q items test
    | compared op expected => exact compareDirective_reworded s text op v expected

end Messages

section Nested

variable {s : Slots} {before after : Fields} {name : String} {e e' : Expectation}

theorem fields_reworded (child : SameVerdicts e e') (find : String → Option Value) (path : Path) :
    SameVerdict
      ((before ++ (name, e) :: after).forM fun field =>
        field.2.compare (find field.1) (path.push field.1))
      ((before ++ (name, e') :: after).forM fun field =>
        field.2.compare (find field.1) (path.push field.1)) := by
  rw [forM_append, forM_append, forM_cons, forM_cons]
  have here := child (find name) (path.push name)
  exact (SameVerdict.refl _).bind (here.bind (.refl _))

theorem plain_reworded (child : SameVerdicts e e') :
    SameVerdicts (.record .none (before ++ (name, e) :: after))
      (.record .none (before ++ (name, e') :: after)) := by
  refine SameVerdicts.of_present fun v path => ?_
  rw [compare_record, compare_record, demand_none, demand_none]
  simp only [List.map_append, List.map_cons]
  cases fieldSource (before.map (·.1) ++ name :: after.map (·.1)) v with
  | error m => exact .failed _
  | ok find => exact fields_reworded child find path

theorem field_reworded (child : SameVerdicts e e') :
    SameVerdicts (.record s (before ++ (name, e) :: after))
      (.record s (before ++ (name, e') :: after)) := by
  refine SameVerdicts.of_present fun v path => ?_
  rw [compare_record, compare_record]
  simp only [List.map_append, List.map_cons]
  cases s.demand (before.map (·.1) ++ name :: after.map (·.1)) v with
  | error m => exact .failed _
  | ok demand =>
    cases demand with
    | fields find => exact fields_reworded child find path
    | forEach items => exact .forM fun item member => plain_reworded child _ _
    | quantified items q test => exact .refl _
    | compared op expected => exact .refl _

theorem satisfies_reworded (element : SameVerdicts e e') :
    Document.satisfies e = Document.satisfies e' := by
  funext item
  have verdict := element (some item) .root
  unfold Document.satisfies check
  generalize e.compare (some item) .root = x at verdict ⊢
  generalize e'.compare (some item) .root = y at verdict ⊢
  cases verdict with
  | passed => rfl
  | failed f => rfl
  | reworded location path message message' => rfl

end Nested

/-- Messages never influence the verdict. Two expectations that differ in the messages beside a
`$check` both match, or fail at the same place with the same error; only the message of an assertion
may differ. -/
theorem messages_decide_nothing {e e' : Expectation} (h : Reworded e e') (actual : Option Value)
    (path : Path) : SameVerdict (e.compare actual path) (e'.compare actual path) := by
  suffices verdicts : SameVerdicts e e' from verdicts actual path
  induction h with
  | same => exact fun actual path => .refl _
  | trans first second ih ih' => exact fun actual path => (ih actual path).trans (ih' actual path)
  | message checked => exact message_reworded checked _
  | field inner ih => exact field_reworded ih
  | @element s fields e e' inner operand ih =>
    -- Both tests answer alike, so the record is the same.
    rw [← satisfies_reworded ih, ← operand]
    exact fun actual path => .refl _

def stockedRows (list count : Option Message) : Expectation :=
  .record .none [("rows", .record ⟨some "every", some (.predicate (Document.satisfies
    (.record .none [("n", .record ⟨some ">", some (.value (.int 0)), none, count⟩ [])]))), none,
      list⟩ [])]

def rowsMessage : Message := .render fun actual _ => s!"the {actual.kindName} has an empty row"

def rows : Value := .object [("rows", .array [.object [("n", .int 3)], .object [("n", .int 0)]])]

theorem messages_decide_nothing_rows :
    Reworded (stockedRows none (some (.literal "empty"))) (stockedRows (some rowsMessage) none) ∧
      (stockedRows none (some (.literal "empty"))).compare (some rows) .root =
        .error ⟨⟨["rows"]⟩, ⟨.assertion, "rows", "Incorrect \"rows\"."⟩⟩ ∧
      (stockedRows (some rowsMessage) none).compare (some rows) .root =
        .error ⟨⟨["rows"]⟩, ⟨.assertion, "rows", "the array has an empty row"⟩⟩ ∧
      SameVerdict ((stockedRows none (some (.literal "empty"))).compare (some rows) .root)
        ((stockedRows (some rowsMessage) none).compare (some rows) .root) := by
  have count : Reworded
      (.record .none [("n", .record ⟨some ">", some (.value (.int 0)), none,
        some (.literal "empty")⟩ [])])
      (.record .none [("n", .record ⟨some ">", some (.value (.int 0)), none, none⟩ [])]) :=
    @Reworded.field _ [] [] "n" _ _ (.message rfl)
  have reworded : Reworded (stockedRows none (some (.literal "empty")))
      (stockedRows (some rowsMessage) none) :=
    @Reworded.field _ [] [] "rows" _ _ (.trans (.element count rfl) (.message rfl))
  exact ⟨reworded, rfl, rfl, messages_decide_nothing reworded (some rows) .root⟩

end DataMatch
