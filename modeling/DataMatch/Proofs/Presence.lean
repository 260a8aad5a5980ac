import DataMatch.Proofs.Nesting
import DataMatch.Proofs.Requirements

/-! Required fields. Each name has to lead to a value of the shape that its bucket asks for, and the
first that does not is reported: scalars before objects before arrays, and in the order of the
lists. Under a base path names are plain members of the member `base`. That gives what checking this
member alone gives, unless a name that the member resolves only by walking decides. -/
namespace DataMatch

namespace Value

inductive Leads : Value → List String → Value → Prop
  | here {v : Value} : Leads v [] v
  | member {members : Members} {segment : String} {next v : Value} {rest : List String}
      (found : members.lookup segment = some next) (onwards : Leads next rest v) :
      Leads (.object members) (segment :: rest) v
  | item {items : List Value} {segment : String} {position : Nat} {next v : Value}
      {rest : List String} (read : positionOf? segment = some position)
      (found : items[position]? = some next) (onwards : Leads next rest v) :
      Leads (.array items) (segment :: rest) v

/-- What a name means in a value: the member of exactly that name, or, where there is none, what the
segments between its points lead to. -/
inductive Resolves (data : Value) (name : String) (v : Value) : Prop
  | exact (found : data.get? name = some v)
  | walked {segments : List String} (other : data.get? name = none) (nonempty : segments ≠ [])
      (dotFree : ∀ segment ∈ segments, '.' ∉ segment.toList)
      (joined : name = ".".intercalate segments) (leads : data.Leads segments v)

section Resolves

variable {data v w : Value} {name : String} {segments : List String}

theorem walk?_eq_some_iff : v.walk? segments = some w ↔ v.Leads segments w := by
  induction segments generalizing v with
  | nil =>
    constructor
    · intro found
      cases found
      exact .here
    · intro leads
      cases leads
      rfl
  | cons segment rest ih =>
    rw [walk?, Option.bind_eq_some_iff]
    constructor
    · rintro ⟨next, step, found⟩
      have onwards := ih.mp found
      cases v with
      | object members => exact .member step onwards
      | array items =>
        obtain ⟨position, read, item⟩ := Option.bind_eq_some_iff.mp step
        exact .item read item onwards
      | _ => contradiction
    · intro leads
      cases leads with
      | member found onwards => exact ⟨_, found, ih.mpr onwards⟩
      | item read found onwards => exact ⟨_, by simp [step?, read, found], ih.mpr onwards⟩

theorem field?_eq_some_iff : data.field? name = some v ↔ data.Resolves name v := by
  unfold field?
  cases direct : data.get? name with
  | some found =>
    constructor
    · rintro ⟨⟩
      exact .exact direct
    · intro resolves
      cases resolves with
      | exact found => rw [← direct, found]
      | walked other => simp [direct] at other
  | none =>
    constructor
    · intro walked
      exact .walked direct (splitName_ne_nil name) (splitName_dotFree name)
        (join_splitName name).symm (walk?_eq_some_iff.mp walked)
    · intro resolves
      cases resolves with
      | exact found => simp [direct] at found
      | walked other nonempty dotFree joined leads =>
        rw [joined, splitName_join dotFree nonempty]
        exact walk?_eq_some_iff.mpr leads

theorem field?_of_undotted (object : v.isObject = true) (undotted : '.' ∉ name.toList) :
    v.field? name = v.get? name := by
  have parts : splitName name = [name] := by
    have alone : splitName (".".intercalate [name]) = [name] :=
      splitName_join (by simpa using undotted) (by simp)
    simpa using alone
  cases v with
  | object members =>
    unfold field?
    cases direct : (Value.object members).get? name with
    | some found => rfl
    | none =>
      have absent : members.lookup name = none := direct
      simp [parts, walk?, step?, absent]
  | _ => contradiction

end Resolves

end Value

namespace Bucket

def Shape : Bucket → Value → Prop
  | scalar, v => v ≠ .null
  | object, v => ∃ members, v = .object members ∧ members ≠ []
  | array, v => ∃ items, v = .array items

theorem holds_eq_true_iff {b : Bucket} {found : Option Value} :
    b.holds found = true ↔ ∃ v, found = some v ∧ b.Shape v := by
  cases found with
  | none => cases b <;> simp [holds]
  | some v => cases b <;> cases v <;> simp [holds, Shape, Value.isNull]

theorem exists_iff {p : Bucket → Prop} : (∃ b, p b) ↔ p .scalar ∨ p .object ∨ p .array := by
  constructor
  · rintro ⟨b, h⟩
    cases b with
    | scalar => exact .inl h
    | object => exact .inr (.inl h)
    | array => exact .inr (.inr h)
  · rintro (h | h | h) <;> exact ⟨_, h⟩

theorem violation_eq (b : Bucket) (name : String) : b.violation name =
    ⟨.assertion, name, "Error in \"requiredFields\": " ++ b.requirement ++ " \"" ++ name ++ "\""⟩ := by
  simp [violation, toString]

theorem violation_injective {b c : Bucket} {name other : String}
    (same : b.violation name = c.violation other) : b = c ∧ name = other := by
  obtain rfl : name = other := congrArg CheckError.path same
  have wording : b.requirement = c.requirement := by
    have message := congrArg CheckError.message same
    simpa [violation, toString] using message
  refine ⟨?_, rfl⟩
  cases b <;> cases c <;> first | rfl | contradiction

end Bucket

namespace FieldSet

/-- The first name whose requirement is not met: scalars before objects before arrays, and in each
bucket in the order of its list. -/
inductive FirstViolation (Met : Bucket → String → Prop) (s : FieldSet) : Bucket → String → Prop
  | scalar {before after : List String} {name : String}
      (listed : s.scalar = before ++ name :: after) (earlier : ∀ other ∈ before, Met .scalar other)
      (violated : ¬ Met .scalar name) : FirstViolation Met s .scalar name
  | object {before after : List String} {name : String}
      (scalars : ∀ other ∈ s.scalar, Met .scalar other)
      (listed : s.object = before ++ name :: after) (earlier : ∀ other ∈ before, Met .object other)
      (violated : ¬ Met .object name) : FirstViolation Met s .object name
  | array {before after : List String} {name : String}
      (scalars : ∀ other ∈ s.scalar, Met .scalar other)
      (objects : ∀ other ∈ s.object, Met .object other)
      (listed : s.array = before ++ name :: after) (earlier : ∀ other ∈ before, Met .array other)
      (violated : ¬ Met .array name) : FirstViolation Met s .array name

def Has (data : Value) (b : Bucket) (name : String) : Prop := ∃ v, data.Resolves name v ∧ b.Shape v

def HasMember (data : Value) (b : Bucket) (name : String) : Prop :=
  ∃ v, data.get? name = some v ∧ b.Shape v

section Verify

variable {s : FieldSet} {data sub : Value} {base : Option String} {b : Bucket} {name : String}
  {err : CheckError} {Met Met' : Bucket → String → Prop}

def nameVerdict (data : Value) (base : Option String) (b : Bucket) (name : String) : Verdict :=
  if b.holds (find data base name) then .ok () else .error (b.violation name)

theorem nameVerdict_eq_ok_iff :
    nameVerdict data base b name = .ok () ↔ b.holds (find data base name) = true := by
  unfold nameVerdict
  split <;> simp [*]

theorem nameVerdict_eq_error_iff :
    nameVerdict data base b name = .error err ↔
      ¬ b.holds (find data base name) = true ∧ err = b.violation name := by
  unfold nameVerdict
  split <;> simp [*, eq_comm]

theorem verify_eq_buckets (s : FieldSet) (data : Value) (base : Option String) :
    s.verify data base = (do
      s.scalar.forM (nameVerdict data base .scalar)
      s.object.forM (nameVerdict data base .object)
      s.array.forM (nameVerdict data base .array)) := by
  have steps : s.verify data base =
      s.entries.forM fun entry => nameVerdict data base entry.1 entry.2 := rfl
  simp only [steps, entries, forM_append, List.forM_eq_forM, List.forM_map, bind_assoc]

theorem verify_eq_ok_iff (met : ∀ b name, b.holds (find data base name) = true ↔ Met b name) :
    s.verify data base = .ok () ↔
      (∀ name ∈ s.scalar, Met .scalar name) ∧ (∀ name ∈ s.object, Met .object name) ∧
        ∀ name ∈ s.array, Met .array name := by
  simp only [verify_eq_buckets, seq_eq_ok_iff, forM_eq_ok_iff, nameVerdict_eq_ok_iff, met]

theorem verify_eq_error_iff (met : ∀ b name, b.holds (find data base name) = true ↔ Met b name) :
    s.verify data base = .error err ↔
      ∃ b name, FirstViolation Met s b name ∧ err = b.violation name := by
  simp only [verify_eq_buckets, seq_eq_error_iff, forM_eq_error_iff, forM_eq_ok_iff,
    nameVerdict_eq_ok_iff, nameVerdict_eq_error_iff, met]
  constructor
  · rintro (⟨before, name, after, listed, earlier, violated, rfl⟩ | ⟨scalars, rest⟩)
    · exact ⟨.scalar, name, .scalar listed earlier violated, rfl⟩
    · rcases rest with ⟨before, name, after, listed, earlier, violated, rfl⟩ | ⟨objects, rest⟩
      · exact ⟨.object, name, .object scalars listed earlier violated, rfl⟩
      · obtain ⟨before, name, after, listed, earlier, violated, rfl⟩ := rest
        exact ⟨.array, name, .array scalars objects listed earlier violated, rfl⟩
  · rintro ⟨b, name, first, rfl⟩
    cases first with
    | scalar listed earlier violated =>
      exact .inl ⟨_, _, _, listed, earlier, violated, rfl⟩
    | object scalars listed earlier violated =>
      exact .inr ⟨scalars, .inl ⟨_, _, _, listed, earlier, violated, rfl⟩⟩
    | array scalars objects listed earlier violated =>
      exact .inr ⟨scalars, .inr ⟨objects, _, _, _, listed, earlier, violated, rfl⟩⟩

theorem has_object_iff :
    Has data .object name ↔ ∃ members, data.Resolves name (.object members) ∧ members ≠ [] := by
  constructor
  · rintro ⟨_, resolves, members, rfl, nonempty⟩
    exact ⟨members, resolves, nonempty⟩
  · rintro ⟨members, resolves, nonempty⟩
    exact ⟨_, resolves, members, rfl, nonempty⟩

theorem has_array_iff : Has data .array name ↔ ∃ items, data.Resolves name (.array items) := by
  constructor
  · rintro ⟨_, resolves, items, rfl⟩
    exact ⟨items, resolves⟩
  · rintro ⟨items, resolves⟩
    exact ⟨_, resolves, items, rfl⟩

theorem holds_iff_has (data : Value) (b : Bucket) (name : String) :
    b.holds (find data none name) = true ↔ Has data b name := by
  simp only [Bucket.holds_eq_true_iff, find, Value.field?_eq_some_iff, Has]

theorem holds_iff_hasMember {key : String} (found : data.get? key = some sub) (b : Bucket)
    (name : String) : b.holds (find data (some key) name) = true ↔ HasMember sub b name := by
  simp only [Bucket.holds_eq_true_iff, find, found, Option.bind_some, HasMember]

theorem HasMember.has (h : HasMember data b name) : Has data b name := by
  obtain ⟨v, found, shape⟩ := h
  exact ⟨v, .exact found, shape⟩

theorem Has.hasMember (h : Has data b name) (object : data.isObject = true)
    (undotted : '.' ∉ name.toList) : HasMember data b name := by
  obtain ⟨v, resolves, shape⟩ := h
  have found := Value.field?_eq_some_iff.mpr resolves
  rw [Value.field?_of_undotted object undotted] at found
  exact ⟨v, found, shape⟩

theorem FirstViolation.violated (h : FirstViolation Met s b name) : ¬ Met b name := by
  cases h <;> assumption

theorem FirstViolation.mem (h : FirstViolation Met s b name) : name ∈ s.fields b := by
  cases h with
  | scalar listed => simp [fields, listed]
  | object _ listed => simp [fields, listed]
  | array _ _ listed => simp [fields, listed]

theorem FirstViolation.relax (h : FirstViolation Met s b name)
    (easier : ∀ b name, Met b name → Met' b name) (violated : ¬ Met' b name) :
    FirstViolation Met' s b name := by
  cases h with
  | scalar listed earlier =>
    exact .scalar listed (fun other inside => easier _ _ (earlier other inside)) violated
  | object scalars listed earlier =>
    exact .object (fun other inside => easier _ _ (scalars other inside)) listed
      (fun other inside => easier _ _ (earlier other inside)) violated
  | array scalars objects listed earlier =>
    exact .array (fun other inside => easier _ _ (scalars other inside))
      (fun other inside => easier _ _ (objects other inside)) listed
      (fun other inside => easier _ _ (earlier other inside)) violated

theorem verify_of_members {key : String} (found : data.get? key = some sub)
    (passed : s.verify data (some key) = .ok ()) : s.verify sub none = .ok () := by
  obtain ⟨scalars, objects, arrays⟩ := (verify_eq_ok_iff (holds_iff_hasMember found)).mp passed
  refine (verify_eq_ok_iff (holds_iff_has sub)).mpr ⟨?_, ?_, ?_⟩
  · exact fun name inside => (scalars name inside).has
  · exact fun name inside => (objects name inside).has
  · exact fun name inside => (arrays name inside).has

theorem verify_base_eq_iff {key : String} (found : data.get? key = some sub) :
    s.verify data (some key) = s.verify sub none ↔
      ∀ b name, FirstViolation (HasMember sub) s b name → ¬ Has sub b name := by
  have direct := holds_iff_hasMember found
  have resolved := holds_iff_has sub
  constructor
  · intro same b name first
    have failed := (verify_eq_error_iff direct).mpr ⟨b, name, first, rfl⟩
    rw [same] at failed
    obtain ⟨c, other, first', reported⟩ := (verify_eq_error_iff resolved).mp failed
    obtain ⟨rfl, rfl⟩ := Bucket.violation_injective reported
    exact first'.violated
  · intro decides
    cases outcome : s.verify data (some key) with
    | ok u => exact (verify_of_members found outcome).symm
    | error err =>
      obtain ⟨b, name, first, rfl⟩ := (verify_eq_error_iff direct).mp outcome
      have first' := first.relax (fun b name => HasMember.has) (decides b name first)
      exact ((verify_eq_error_iff resolved).mpr ⟨b, name, first', rfl⟩).symm

end Verify

/-- Without a base path the check passes exactly if every scalar is there and not null, every object
is one with members and every array is one; otherwise it is an assertion at the first name that is
not so. The order of the keys in the document of the names has no influence. -/
theorem verify_reports_first_violation (s : FieldSet) (data : Value) :
    (s.verify data none = .ok () ↔
        (∀ name ∈ s.scalar, ∃ v, data.Resolves name v ∧ v ≠ .null) ∧
        (∀ name ∈ s.object, ∃ members, data.Resolves name (.object members) ∧ members ≠ []) ∧
        ∀ name ∈ s.array, ∃ items, data.Resolves name (.array items)) ∧
      (∀ err, s.verify data none = .error err ↔
        ∃ name,
          (FirstViolation (Has data) s .scalar name ∧ err = ⟨.assertion, name,
            "Error in \"requiredFields\": it should return \"" ++ name ++ "\""⟩) ∨
          (FirstViolation (Has data) s .object name ∧ err = ⟨.assertion, name,
            "Error in \"requiredFields\": it should be not empty \"" ++ name ++ "\""⟩) ∨
          (FirstViolation (Has data) s .array name ∧ err = ⟨.assertion, name,
            "Error in \"requiredFields\": it should be array \"" ++ name ++ "\""⟩)) ∧
      ∀ members moved : Members, (members.map (·.1)).Nodup → members.Perm moved →
        (decode (.object members) = .ok s ↔ decode (.object moved) = .ok s) := by
  refine ⟨?_, fun err => ?_, fun members moved distinct perm => decode_perm distinct perm⟩
  · rw [verify_eq_ok_iff (holds_iff_has data)]
    simp only [has_object_iff, has_array_iff]
    exact Iff.rfl
  · rw [verify_eq_error_iff (holds_iff_has data), exists_comm]
    simp only [Bucket.exists_iff, Bucket.violation_eq, Bucket.requirement, String.reduceAppend]


/-- Under a base path the member `base` is checked, but with names as plain members of it. The
verdicts agree exactly as long as the first name that is no such member is not found by walking,
either; so they agree on names without points in an object. What passes under a base path passes. -/
theorem base_agrees_iff (s : FieldSet) {data sub : Value} {base : String}
    (found : data.get? base = some sub) :
    (s.verify data (some base) = s.verify sub none ↔
        ∀ b name, FirstViolation (HasMember sub) s b name → ¬ Has sub b name) ∧
      (s.verify data (some base) = .ok () → s.verify sub none = .ok ()) ∧
      (sub.isObject = true → (∀ b, ∀ name ∈ s.fields b, '.' ∉ name.toList) →
        s.verify data (some base) = s.verify sub none) := by
  refine ⟨verify_base_eq_iff found, verify_of_members found, fun object undotted => ?_⟩
  refine (verify_base_eq_iff found).mpr fun b name first has => ?_
  exact first.violated (has.hasMember object (undotted b name first.mem))

def payment : Value := .object [("status", .null), ("owner", .object [("id", .int 3)])]

def payments : Value := .object [("payment", payment)]

/-- The owner's identifier is in the payment, and is missed under the payment as the base. -/
theorem base_misses_dotted_name :
    payments.get? "payment" = some payment ∧
      verify ⟨["owner.id"], [], []⟩ payments (some "payment") =
        .error ⟨.assertion, "owner.id",
          "Error in \"requiredFields\": it should return \"owner.id\""⟩ ∧
      verify ⟨["owner.id"], [], []⟩ payment none = .ok () :=
  ⟨rfl, rfl, rfl⟩

theorem base_agrees_iff_payment :
    payments.get? "payment" = some payment ∧ payment.isObject = true ∧
      (∀ b, ∀ name ∈ fields ⟨["owner", "status"], ["owner"], []⟩ b, '.' ∉ name.toList) ∧
      verify ⟨["owner", "status"], ["owner"], []⟩ payment none =
        .error (Bucket.violation .scalar "status") ∧
      verify ⟨["owner", "status"], ["owner"], []⟩ payments (some "payment") =
        .error (Bucket.violation .scalar "status") := by
  have found : payments.get? "payment" = some payment := rfl
  have undotted : ∀ b, ∀ name ∈ fields ⟨["owner", "status"], ["owner"], []⟩ b,
      '.' ∉ name.toList := by
    intro b
    cases b <;> decide
  have failed : verify ⟨["owner", "status"], ["owner"], []⟩ payment none =
      .error (Bucket.violation .scalar "status") := rfl
  obtain ⟨_, _, agrees⟩ := base_agrees_iff ⟨["owner", "status"], ["owner"], []⟩ found
  exact ⟨found, rfl, undotted, failed, (agrees rfl undotted).trans failed⟩

end FieldSet

end DataMatch
