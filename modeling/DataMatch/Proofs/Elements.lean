import DataMatch.Match.Data
import DataMatch.Proofs.Comparison

/-! An array as the input. Each element goes through three steps: its expectation is made, its
required fields are looked for, and it is compared. The first step that fails, element after
element, gives the error of the whole input. -/
namespace DataMatch

def FieldsPresent (required : Option FieldSet) (element : Value) : Prop :=
  ∀ fields, required = some fields → fields.verify element none = .ok ()

/-- All three steps pass. The element is compared as it stands, also when it is null or an array. -/
def ElementPasses (t : Template) (required : Option FieldSet) (element : Value) : Prop :=
  ∃ e, t.forElement element = .ok e ∧ FieldsPresent required element ∧
    e.compare (some element) .root = .ok ()

inductive ElementFails (t : Template) (required : Option FieldSet) (element : Value) :
    CheckError → Prop
  | expectation {err : CheckError} (refused : t.forElement element = .error err) :
      ElementFails t required element err
  | fields {e : Expectation} {fields : FieldSet} {err : CheckError}
      (made : t.forElement element = .ok e) (asked : required = some fields)
      (absent : fields.verify element none = .error err) : ElementFails t required element err
  | comparison {e : Expectation} {f : Failure} (made : t.forElement element = .ok e)
      (present : FieldsPresent required element)
      (failed : e.compare (some element) .root = .error f) :
      ElementFails t required element f.error

def elementVerdict (t : Template) (required : Option FieldSet) (element : Value) : Verdict := do
  checkElement required element (← t.forElement element)

section Element

variable {t : Template} {required : Option FieldSet} {element : Value} {err : CheckError}
  {e : Expectation}

theorem elementVerdict_of_made (made : t.forElement element = .ok e) :
    elementVerdict t required element = checkElement required element e := by
  rw [elementVerdict, made]
  rfl

theorem checkElement_of_present (present : FieldsPresent required element) :
    checkElement required element e = check element e := by
  cases required with
  | none => rfl
  | some fields =>
    have passed : fields.verify element none = .ok () := present fields rfl
    simp only [checkElement, passed]
    rfl

theorem checkElement_of_absent {fields : FieldSet}
    (absent : fields.verify element none = .error err) :
    checkElement (some fields) element e = .error err := by
  simp only [checkElement, absent]
  rfl

theorem ElementPasses.verdict (h : ElementPasses t required element) :
    elementVerdict t required element = .ok () := by
  obtain ⟨e, made, present, passed⟩ := h
  rw [elementVerdict_of_made made, checkElement_of_present present, check_of_ok passed]

theorem ElementFails.verdict (h : ElementFails t required element err) :
    elementVerdict t required element = .error err := by
  cases h with
  | expectation refused =>
    rw [elementVerdict, refused]
    rfl
  | fields made asked absent =>
    subst asked
    rw [elementVerdict_of_made made, checkElement_of_absent absent]
  | comparison made present failed =>
    rw [elementVerdict_of_made made, checkElement_of_present present, check_of_error failed]

theorem present_or_absent (required : Option FieldSet) (element : Value) :
    FieldsPresent required element ∨ ∃ fields err, required = some fields ∧
      fields.verify element none = .error err := by
  cases required with
  | none => exact .inl nofun
  | some fields =>
    cases verified : fields.verify element none with
    | ok u =>
      left
      intro other same
      cases same
      exact verified
    | error err => exact .inr ⟨fields, err, rfl, verified⟩

theorem passes_or_fails (t : Template) (required : Option FieldSet) (element : Value) :
    ElementPasses t required element ∨ ∃ err, ElementFails t required element err := by
  -- The steps are gone through in their order: each case begins where the step before passed.
  cases made : t.forElement element with
  | error err => exact .inr ⟨err, .expectation made⟩
  | ok e =>
    rcases present_or_absent required element with present | ⟨fields, err, asked, absent⟩
    · cases outcome : e.compare (some element) .root with
      | ok u => exact .inl ⟨e, made, present, outcome⟩
      | error f => exact .inr ⟨f.error, .comparison made present outcome⟩
    · exact .inr ⟨err, .fields made asked absent⟩

theorem elementVerdict_eq_ok_iff :
    elementVerdict t required element = .ok () ↔ ElementPasses t required element := by
  refine ⟨fun verdict => ?_, ElementPasses.verdict⟩
  rcases passes_or_fails t required element with passes | ⟨err, fails⟩
  · exact passes
  · rw [fails.verdict] at verdict
    contradiction

theorem elementVerdict_eq_error_iff :
    elementVerdict t required element = .error err ↔ ElementFails t required element err := by
  refine ⟨fun verdict => ?_, ElementFails.verdict⟩
  rcases passes_or_fails t required element with passes | ⟨err', fails⟩
  · rw [passes.verdict] at verdict
    contradiction
  · rw [fails.verdict] at verdict
    cases verdict
    exact fails

end Element

theorem checkData_array {items : List Value} (nonempty : items ≠ []) (t : Template)
    (required : Option FieldSet) :
    checkData (some (.array items)) t required = items.forM (elementVerdict t required) := by
  cases items with
  | nil => contradiction
  | cons first rest => rfl

/-- An array passes when all its elements do, and otherwise reports the first step that fails. So
the elements after that one have no influence, an array in two parts is checked part by part, and a
template that makes the same expectation for each element is as good as that expectation. -/
theorem checkData_elements {items : List Value} (nonempty : items ≠ []) (t : Template)
    (required : Option FieldSet) :
    (checkData (some (.array items)) t required = .ok () ↔
        ∀ item ∈ items, ElementPasses t required item) ∧
      (∀ err, checkData (some (.array items)) t required = .error err ↔
        ∃ before item after, items = before ++ item :: after ∧
          (∀ earlier ∈ before, ElementPasses t required earlier) ∧
          ElementFails t required item err) ∧
      (∀ more, more ≠ [] → checkData (some (.array (items ++ more))) t required =
        match checkData (some (.array items)) t required with
        | .error err => .error err
        | .ok () => checkData (some (.array more)) t required) ∧
      ∀ make e, (∀ item ∈ items, make item = .ok e) →
        checkData (some (.array items)) (.each make) required =
          checkData (some (.array items)) (.fixed e) required := by
  simp only [checkData_array nonempty]
  refine ⟨?_, fun err => ?_, fun more moreThere => ?_, fun make e same => ?_⟩
  · simp only [forM_eq_ok_iff, elementVerdict_eq_ok_iff]
  · constructor
    · intro failed
      obtain ⟨before, item, after, split, passed, last⟩ := exists_first_of_forM_eq_error failed
      refine ⟨before, item, after, split, ?_, elementVerdict_eq_error_iff.mp last⟩
      exact fun earlier member => elementVerdict_eq_ok_iff.mp (passed earlier member)
    · rintro ⟨before, item, after, rfl, passed, last⟩
      exact forM_eq_error_of_first (fun earlier member => (passed earlier member).verdict)
        last.verdict
  · rw [checkData_array (by simp [nonempty]), checkData_array moreThere]
    rw [forM_append]
    cases items.forM (elementVerdict t required) <;> rfl
  · refine forM_congr fun item member => ?_
    have made : (Template.each make).forElement item = .ok e := same item member
    have fixed : (Template.fixed e).forElement item = .ok e := rfl
    rw [elementVerdict_of_made made, elementVerdict_of_made fixed]

def numberIsId : Template :=
  .each fun order =>
    match order.get? "id" with
    | some id => .ok (.record .none [("number", .literal id)])
    | none => .error ⟨.notFound, "", "no identifier"⟩

def orders : List Value :=
  [.object [("id", .int 1), ("number", .int 1)], .object [("id", .null), ("number", .int 2)],
    .null]

theorem checkData_elements_orders :
    orders ≠ [] ∧
      checkData (some (.array orders)) numberIsId (some ⟨["id"], [], []⟩) =
        .error ⟨.assertion, "id", "Error in \"requiredFields\": it should return \"id\""⟩ ∧
      ∃ before item after, orders = before ++ item :: after ∧
        (∀ earlier ∈ before, ElementPasses numberIsId (some ⟨["id"], [], []⟩) earlier) ∧
        ElementFails numberIsId (some ⟨["id"], [], []⟩) item
          ⟨.assertion, "id", "Error in \"requiredFields\": it should return \"id\""⟩ := by
  have nonempty : orders ≠ [] := nofun
  have failed : checkData (some (.array orders)) numberIsId (some ⟨["id"], [], []⟩) =
      .error ⟨.assertion, "id", "Error in \"requiredFields\": it should return \"id\""⟩ := rfl
  obtain ⟨_, errors, _⟩ := checkData_elements nonempty numberIsId (some ⟨["id"], [], []⟩)
  exact ⟨nonempty, failed, (errors _).mp failed⟩

end DataMatch
