import DataMatch.Proofs.Soundness

/-! The comparison decides the relation `Matches`, and where it fails it reports the first failure.
Every outcome is explained by a relation, one kind of node at a time. -/
namespace DataMatch

def Explains (actual : Option Value) (e : Expectation) (path : Path) : Outcome → Prop
  | .ok () => Matches actual e
  | .error f => FirstFailure Ends actual e path f

theorem Matches.explains {actual : Option Value} {e : Expectation} (h : Matches actual e)
    (path : Path) : Explains actual e path (e.compare actual path) := by
  rw [h.compare_eq path]
  exact h

theorem Misused.explains {v : Value} {e : Expectation} {m : Misuse} (h : Misused v e m)
    (path : Path) : Explains (some v) e path (e.compare (some v) path) := by
  rw [h.compare_eq path]
  exact .here (.inl (.misused h))

theorem Differs.explains {v : Value} {e : Expectation} (h : Differs v e) (path : Path) :
    Explains (some v) e path (e.compare (some v) path) := by
  rw [h.compare_eq path]
  exact .here (.inl (.differs h))

theorem forM_fields_explains {fields : Fields} (find : String → Option Value) (path : Path)
    (each : ∀ field ∈ fields, Explains (find field.1) field.2 (path.push field.1)
      (field.2.compare (find field.1) (path.push field.1))) :
    match fields.forM fun field => field.2.compare (find field.1) (path.push field.1) with
    | .ok () => ∀ field ∈ fields, Matches (find field.1) field.2
    | .error f => ∃ before name child after, fields = before ++ (name, child) :: after ∧
        (∀ field ∈ before, Matches (find field.1) field.2) ∧
          FirstFailure Ends (find name) child (path.push name) f := by
  split
  · rename_i passed
    intro field member
    have explained := each field member
    rwa [forM_eq_ok_iff.mp passed field member] at explained
  · rename_i f failed
    obtain ⟨before, ⟨name, child⟩, after, rfl, passed, below⟩ :=
      exists_first_of_forM_eq_error failed
    refine ⟨before, name, child, after, rfl, ?_, ?_⟩
    · intro field member
      have explained := each field (List.mem_append_left _ member)
      rwa [passed field member] at explained
    · have explained := each (name, child) (by simp)
      rwa [below] at explained

theorem compare_plain_explains {fields : Fields}
    (each : ∀ field ∈ fields, ∀ actual path, Explains actual field.2 path
      (field.2.compare actual path)) (v : Value) (path : Path) :
    Explains (some v) (.record .none fields) path
      ((Expectation.record .none fields).compare (some v) path) := by
  cases v with
  | object members =>
    have parts := forM_fields_explains (Value.object members).field? path
      fun field member => each field member _ _
    rw [← compare_object] at parts
    split at parts
    · rename_i outcome
      rw [outcome]
      exact .object parts
    · rename_i f outcome
      rw [outcome]
      obtain ⟨before, name, child, after, rfl, passed, below⟩ := parts
      exact .field passed below
  | array items =>
    by_cases integers : ∀ field ∈ fields, (parseIndex field.1).isSome = true
    · have parts := forM_fields_explains
        (fun name => (parseIndex name).bind (resolveIndex items)) path
        fun field member => each field member _ _
      rw [← compare_positions integers] at parts
      split at parts
      · rename_i outcome
        rw [outcome]
        exact .positions integers parts
      · rename_i f outcome
        rw [outcome]
        obtain ⟨before, key, child, after, rfl, passed, below⟩ := parts
        exact .position integers passed below
    · obtain ⟨field, notInteger⟩ := Classical.not_forall.mp integers
      obtain ⟨member, name⟩ := Classical.not_imp.mp notInteger
      exact Misused.explains (.nameOnArray member (by simpa using name)) path
  | _ => exact Misused.explains (.uncheckedOnPrimitive rfl rfl) path

theorem compare_forEach_explains {s : Slots} {fields : Fields} (kind : s.kind? = some .forEach)
    (plain : ∀ v path, Explains (some v) (.record .none fields) path
      ((Expectation.record .none fields).compare (some v) path)) (items : List Value)
    (path : Path) :
    Explains (some (.array items)) (.record s fields) path
      ((Expectation.record s fields).compare (some (.array items)) path) := by
  cases outcome : (Expectation.record s fields).compare (some (.array items)) path with
  | ok u =>
    rw [compare_forEach kind] at outcome
    refine .forEach kind fun item member => ?_
    obtain ⟨position, found⟩ := List.mem_iff_getElem?.mp member
    have passed := forM_eq_ok_iff.mp outcome (item, position)
      (List.mk_mem_zipIdx_iff_getElem?.mpr found)
    have explained := plain item (path.push (toString position))
    rwa [passed] at explained
  | error f =>
    rw [compare_forEach kind] at outcome
    obtain ⟨before, ⟨item, position⟩, after, split, passed, below⟩ :=
      exists_first_of_forM_eq_error outcome
    obtain ⟨firsts, lasts, rfl, rfl, rfl⟩ := exists_split_of_zipIdx split
    refine .item kind (fun earlier member => ?_) ?_
    · obtain ⟨index, found⟩ := List.mem_iff_getElem?.mp member
      have explained := plain earlier (path.push (toString index))
      rwa [passed (earlier, index) (List.mk_mem_zipIdx_iff_getElem?.mpr found)] at explained
    · have explained := plain item (path.push (toString firsts.length))
      rwa [below] at explained

theorem compare_quantified_explains {s : Slots} {q : Quantifier}
    (kind : s.kind? = some (.quantify q)) (fields : Fields) (items : List Value) (path : Path) :
    Explains (some (.array items)) (.record s fields) path
      ((Expectation.record s fields).compare (some (.array items)) path) := by
  cases operand : s.operand with
  | none => exact Misused.explains (.quantifierWithoutOperand kind operand) path
  | some operandValue =>
    cases operandValue with
    | value expected => exact Misused.explains (.valueForQuantifier kind operand) path
    | predicate test =>
      rcases quantifier_cases q test items with satisfied | refuted | ⟨e, aborted⟩
      · exact Matches.explains (.quantified kind operand satisfied) path
      · exact Differs.explains (.quantified kind operand refuted) path
      · have fault : PredicateFault (some (.array items)) (.record s fields) path e :=
          .aborted kind operand aborted
        rw [fault.compare_eq]
        exact .here (.inr fault)

theorem compare_compared_explains {s : Slots} {v : Value} {op : Operator}
    (shape : v.isObject = false) (kind : s.kind? = some (.compare op)) (fields : Fields)
    (path : Path) :
    Explains (some v) (.record s fields) path
      ((Expectation.record s fields).compare (some v) path) := by
  cases operand : s.operand with
  | none => exact Misused.explains (.comparisonWithoutOperand shape kind operand) path
  | some operandValue =>
    cases operandValue with
    | predicate test => exact Misused.explains (.predicateForComparison shape kind operand) path
    | value expected =>
      by_cases comparable : s.Comparable v expected
      · cases holds : op.holds (s.prepared v) (s.prepared expected) with
        | true => exact Matches.explains (.compared shape kind operand comparable holds) path
        | false => exact Differs.explains (.compared shape kind operand comparable holds) path
      · exact Misused.explains (.containerOperand shape kind operand comparable) path

theorem compare_directive_explains {s : Slots} {fields : Fields} (set : s ≠ .none)
    (plain : ∀ v path, Explains (some v) (.record .none fields) path
      ((Expectation.record .none fields).compare (some v) path)) (v : Value) (path : Path) :
    Explains (some v) (.record s fields) path
      ((Expectation.record s fields).compare (some v) path) := by
  -- The order of `demand`: the shape of the value first, then `$check`, and the operand last.
  cases shape : v.isObject with
  | true =>
    cases v with
    | object members => exact Misused.explains (.directiveOnObject set) path
    | _ => contradiction
  | false =>
    cases check : s.check with
    | none =>
      cases v with
      | object members => contradiction
      | array items => exact Misused.explains (.uncheckedOnArray set check) path
      | _ => exact Misused.explains (.uncheckedOnPrimitive rfl check) path
    | some name =>
      cases named : CheckKind.named? name with
      | none => exact Misused.explains (.undefinedOperator shape check named) path
      | some kind =>
        have kinded : s.kind? = some kind := kind_of_check check named
        cases kind with
        | compare op => exact compare_compared_explains shape kinded fields path
        | quantify q =>
          cases v with
          | object members => contradiction
          | array items => exact compare_quantified_explains kinded fields items path
          | _ => exact Misused.explains (.quantifierOnPrimitive rfl kinded) path
        | forEach =>
          cases v with
          | object members => contradiction
          | array items => exact compare_forEach_explains kinded plain items path
          | _ => exact Misused.explains (.forEachOnPrimitive rfl kinded) path

theorem compare_literal_explains (expected v : Value) (path : Path) :
    Explains (some v) (.literal expected) path
      ((Expectation.literal expected).compare (some v) path) := by
  cases primitive : v.isContainer with
  | true =>
    cases v with
    | object members => exact Misused.explains .literalOnObject path
    | array items => exact Misused.explains .literalOnArray path
    | _ => contradiction
  | false =>
    cases equal : v.looseEq expected with
    | true => exact Matches.explains (.literal primitive equal) path
    | false => exact Differs.explains (.literal primitive equal) path

theorem compare_explains (e : Expectation) (actual : Option Value) (path : Path) :
    Explains actual e path (e.compare actual path) := by
  -- A record meets its fields with other values and at longer paths.
  induction e generalizing actual path with
  | literal expected =>
    cases actual with
    | none =>
      rw [compare_none]
      exact .here (.inl .missing)
    | some v => exact compare_literal_explains expected v path
  | record s fields ih =>
    cases actual with
    | none =>
      rw [compare_none]
      exact .here (.inl .missing)
    | some v =>
      by_cases set : s = .none
      · subst set
        exact compare_plain_explains ih v path
      · exact compare_directive_explains set (compare_plain_explains ih) v path

theorem compare_eq_ok_iff {actual : Option Value} {e : Expectation} {path : Path} :
    e.compare actual path = .ok () ↔ Matches actual e := by
  refine ⟨fun passed => ?_, fun h => h.compare_eq path⟩
  have explained := compare_explains e actual path
  rwa [passed] at explained

theorem compare_eq_error_iff {actual : Option Value} {e : Expectation} {path : Path}
    {f : Failure} : e.compare actual path = .error f ↔ FirstFailure Ends actual e path f := by
  refine ⟨fun failed => ?_, fun h => h.compare_eq⟩
  have explained := compare_explains e actual path
  rwa [failed] at explained

/-- The comparison succeeds exactly when the value matches, and otherwise reports the first
failure. -/
theorem compare_decides_matching (actual : Option Value) (e : Expectation) (path : Path) :
    (e.compare actual path = .ok () ↔ Matches actual e) ∧
      ∀ f, e.compare actual path = .error f ↔ FirstFailure Ends actual e path f :=
  ⟨compare_eq_ok_iff, fun _ => compare_eq_error_iff⟩

end DataMatch
