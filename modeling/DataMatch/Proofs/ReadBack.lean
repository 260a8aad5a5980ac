import DataMatch.Proofs.Grammar

/-! Reading back: the tree of a document shows the document again, up to the positions of the
reserved keys in its objects. The `$value` of a quantifier has become a test, which is known by its
answers. -/
namespace DataMatch.Document

/-- A test gives the verdict of the comparison with an expectation: what does not match is false,
and a mistake in the expectation is passed on. -/
structure Answers (test : Predicate) (e : Expectation) : Prop where
  yes {item : Value} (passed : e.compare (some item) .root = .ok ()) : test item = .ok true
  no {item : Value} {f : Failure} (failed : e.compare (some item) .root = .error f)
    (kind : f.error.kind = .assertion ∨ f.error.kind = .notFound) : test item = .ok false
  mistake {item : Value} {f : Failure} (failed : e.compare (some item) .root = .error f)
    (kind : f.error.kind = .configuration) : test item = .error f.error

theorem satisfies_answers (e : Expectation) : Answers (satisfies e) e where
  yes passed := satisfies_of_ok (check_of_ok passed)
  no failed kind := by
    rw [satisfies_of_error (check_of_error failed)]
    rcases kind with kind | kind <;> simp [kind]
  mistake failed kind := by
    rw [satisfies_of_error (check_of_error failed), if_pos kind]

def fieldMembers (members : Members) : Members := members.filter (·.1 ∉ reservedNames)

def reservedMembers (members : Members) : Members := members.filter (·.1 ∈ reservedNames)

def slotMembers (s : Slots) (operand : Option Value) (text : Option String) : Members :=
  [("$check", s.check.map Value.string), ("$value", operand),
    ("$func", s.transform.map fun t => .string t.name), ("$eMessage", text.map .string)].filterMap
      fun (key, shown) => shown.map (key, ·)

mutual

inductive ReadsBack : Expectation → Value → Prop
  | literal {v : Value} (h : v.isObject = false) : ReadsBack (.literal v) v
  | record {s : Slots} {fields : Fields} {members : Members} {operand : Option Value}
      {text : Option String} (inOrder : List.Forall₂ FieldReadsBack fields (fieldMembers members))
      (operandShown : OperandReadsBack (Quantified members) s.operand operand)
      (known : ∀ t, s.transform = some t → Transform.named? t.name = some t)
      (message : s.message = text.map .literal)
      (reserved : (reservedMembers members).Perm (slotMembers s operand text)) :
      ReadsBack (.record s fields) (.object members)

inductive FieldReadsBack : String × Expectation → String × Value → Prop
  | intro {name : String} {e : Expectation} {v : Value} (below : ReadsBack e v) :
      FieldReadsBack (name, e) (name, v)

inductive OperandReadsBack : Prop → Option Operand → Option Value → Prop
  | none {quantified : Prop} : OperandReadsBack quantified none none
  | data {quantified : Prop} {v : Value} (plain : ¬ quantified) :
      OperandReadsBack quantified (some (.value v)) (some v)
  | test {quantified : Prop} {test : Predicate} {element : Expectation} {v : Value}
      (h : quantified) (read : parse v = .ok element) (answers : Answers test element)
      (below : ReadsBack element v) :
      OperandReadsBack quantified (some (.predicate test)) (some v)

end

/-- A record stands for the members that were read into it: its fields for some, and its slots
after `$check` for what the other reserved keys have. -/
structure StandsFor (quantified : Prop) (fields : Members) (value func message : Option Value)
    (r : Record) : Prop where
  kind : isQuantified r = true ↔ quantified
  inOrder : List.Forall₂ FieldReadsBack r.fields fields
  operand : OperandReadsBack quantified r.slots.operand value
  transform : r.slots.transform.map (fun t => Value.string t.name) = func
  known : ∀ t, r.slots.transform = some t → Transform.named? t.name = some t
  message : ∃ text : Option String,
    r.slots.message = text.map .literal ∧ text.map Value.string = message

abbrev StandsForMembers (quantified : Prop) (members : Members) (r : Record) : Prop :=
  StandsFor quantified (fieldMembers members) (members.lookup "$value") (members.lookup "$func")
    (members.lookup "$eMessage") r

section Members

variable {path : Path} {quantified : Prop} {seen members : Members} {r next : Record}
  {key : String} {v : Value}

theorem fieldMembers_append_reserved (reserved : key ∈ reservedNames) :
    fieldMembers (seen ++ [(key, v)]) = fieldMembers seen := by
  simp [fieldMembers, List.filter_append, reserved]

theorem fieldMembers_append_free (free : key ∉ reservedNames) :
    fieldMembers (seen ++ [(key, v)]) = fieldMembers seen ++ [(key, v)] := by
  simp [fieldMembers, List.filter_append, free]

theorem named?_name {name : String} {t : Transform} (named : Transform.named? name = some t) :
    t.name = name := by
  unfold Transform.named? at named
  split at named
  · split at named
    · cases named
      rfl
    · contradiction
  · obtain ⟨f, _, rfl⟩ := Option.map_eq_some_iff.mp named
    rfl

theorem MemberRead.standsFor (read : MemberRead path r (key, v) next)
    (fresh : key ∉ seen.map (·.1))
    (below : ∀ path e, parseAt path v = .ok e → ReadsBack e v)
    (stands : StandsForMembers quantified seen r) :
    StandsForMembers quantified (seen ++ [(key, v)]) next := by
  have others : ∀ other, other ≠ key → (seen ++ [(key, v)]).lookup other = seen.lookup other :=
    fun other different => lookup_append_other different
  have own : (seen ++ [(key, v)]).lookup key = some v := lookup_append_fresh fresh
  -- Each member changes what is found under its own key; for the other keys the record stands as
  -- before.
  unfold StandsForMembers
  cases read with
  | check =>
    rw [fieldMembers_append_reserved (by decide), others _ (by decide), others _ (by decide),
      others _ (by decide)]
    exact stands
  | value raw =>
    rw [fieldMembers_append_reserved (by decide), own, others _ (by decide), others _ (by decide)]
    have plain : ¬ quantified := by
      rw [← stands.kind, raw]
      decide
    exact { stands with operand := .data plain }
  | @element _ e kind read =>
    rw [fieldMembers_append_reserved (by decide), own, others _ (by decide), others _ (by decide)]
    have test := OperandReadsBack.test (stands.kind.mp kind) (parseAt_relocate read .root)
      (satisfies_answers e) (below path e read)
    exact { stands with operand := test }
  | @transform _ t read =>
    obtain ⟨name, rfl, named⟩ := expectTransform_eq_ok_iff.mp read
    obtain rfl := named?_name named
    rw [fieldMembers_append_reserved (by decide), own, others _ (by decide), others _ (by decide)]
    refine { stands with transform := rfl, known := ?_ }
    intro t' same
    cases same
    exact named
  | @message text =>
    rw [fieldMembers_append_reserved (by decide), own, others _ (by decide), others _ (by decide)]
    exact { stands with message := ⟨some text, rfl, rfl⟩ }
  | @field _ _ e free read =>
    have different : ∀ other ∈ reservedNames, other ≠ key := by
      rintro other reserved rfl
      exact free reserved
    rw [fieldMembers_append_free free, others _ (different _ (by decide)),
      others _ (different _ (by decide)), others _ (different _ (by decide))]
    have last : FieldReadsBack (key, e) (key, v) := .intro (below _ e read)
    exact { stands with inOrder := List.rel_append stands.inOrder (.cons last .nil) }

theorem start_standsFor (started : start path members = .ok r) :
    StandsForMembers (Quantified members) [] r := by
  have kind := start_isQuantified started
  obtain ⟨check, _, rfl⟩ := start_eq_ok_iff.mp started
  exact ⟨kind, .nil, .none, rfl, nofun, none, rfl, rfl⟩

theorem start_check (started : start path members = .ok r) :
    r.slots.check.map Value.string = members.lookup "$check" := by
  obtain ⟨check, found, rfl⟩ := start_eq_ok_iff.mp started
  exact found.symm

theorem StandsFor.readsBack (stands : StandsForMembers (Quantified members) members r)
    (check : r.slots.check.map Value.string = members.lookup "$check")
    (distinct : (members.map (·.1)).Nodup) : ReadsBack r.toExpectation (.object members) := by
  obtain ⟨text, literal, message⟩ := stands.message
  refine .record stands.inOrder stands.operand stands.known literal ?_
  have shown : slotMembers r.slots (members.lookup "$value") text =
      reservedNames.filterMap fun key => (members.lookup key).map (key, ·) := by
    rw [slotMembers, check, stands.transform, message]
    rfl
  rw [shown]
  exact filter_perm_lookups distinct (by decide)

end Members

theorem parseAt_reads_back {document : Value} {e : Expectation} {path : Path}
    (distinct : document.DistinctKeys) (read : parseAt path document = .ok e) :
    ReadsBack e document := by
  induction document generalizing path e with
  | primitive v h =>
    have shape := Value.isObject_of_primitive h
    rw [parseAt_primitive shape read]
    exact .literal shape
  | array items ih =>
    cases read
    exact .literal rfl
  | object members ih =>
    obtain ⟨own, each⟩ := distinct.of_object
    obtain ⟨first, last, started, finished, rfl⟩ := parseAt_object read
    have stands : StandsForMembers (Quantified members) members last := by
      refine parseMembers_traces _ ?_ (start_standsFor started) finished
      intro seen member rest r next split read stands
      have inside : member ∈ members := by simp [split]
      have fresh : member.1 ∉ seen.map (·.1) := fresh_of_distinct (split ▸ own)
      exact read.standsFor fresh (fun path e read => ih member inside (each member inside) read)
        stands
    have check : last.slots.check = first.slots.check := by
      refine parseMembers_keeps (fun r => r.slots.check = first.slots.check) ?_ rfl finished
      intro member _ r next read same
      cases read <;> exact same
    exact stands.readsBack (check ▸ start_check started) own

/-- Reading a document loses, adds and reorders nothing. -/
theorem parse_reads_back {document : Value} {e : Expectation} (distinct : document.DistinctKeys)
    (read : parse document = .ok e) : ReadsBack e document :=
  parseAt_reads_back distinct read

def administrator : Value :=
  .object [("role", .object [("$func", .string "lowercase"), ("$value", .string "admin"),
    ("$check", .string "equal")]), ("id", .int 2)]

def roster : Value :=
  .object [
    ("members", .object [("$value", administrator), ("$eMessage", .string "no administrator"),
      ("$check", .string "some")]),
    ("origin", .object [("$check", .string "=="), ("$value", .object [("$check", .null)])])]

theorem parse_reads_back_roster :
    roster.DistinctKeys ∧ ∃ e, parse roster = .ok e ∧ ReadsBack e roster := by
  have role : (Value.object [("$func", .string "lowercase"), ("$value", .string "admin"),
      ("$check", .string "equal")]).DistinctKeys :=
    .object (by decide) (by simpa using ⟨.primitive rfl, .primitive rfl, .primitive rfl⟩)
  have element : administrator.DistinctKeys :=
    .object (by decide) (by simpa using ⟨role, .primitive rfl⟩)
  have rawValue : (Value.object [("$check", .null)]).DistinctKeys :=
    .object (by decide) (List.forall_mem_singleton.mpr (.primitive rfl))
  have distinct : roster.DistinctKeys := by
    refine .object (by decide) (List.forall_mem_cons.mpr ⟨?_, List.forall_mem_singleton.mpr ?_⟩)
    · exact .object (by decide) (by simpa using ⟨element, .primitive rfl, .primitive rfl⟩)
    · exact .object (by decide) (by simpa using ⟨.primitive rfl, rawValue⟩)
  obtain ⟨e, read⟩ : ∃ e, parse roster = .ok e := ⟨_, rfl⟩
  exact ⟨distinct, e, read, parse_reads_back distinct read⟩

end DataMatch.Document
