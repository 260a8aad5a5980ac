import DataMatch.Proofs.Reading

/-! The grammar of documents that are expectations, and the first place where a document violates
it. `$check` comes before the other keys of its object, because it decides what `$value` is; the
other keys follow in order, each with everything below it. Reading a document accepts exactly the
grammar and reports exactly the first violation. -/
namespace DataMatch.Document

def IsText (v : Value) : Prop := ∃ text, v = .string text

def Quantified (members : Members) : Prop :=
  members.lookup "$check" = some (.string "some") ∨ members.lookup "$check" = some (.string "every")

def ChecksByName (members : Members) : Prop :=
  ∀ v, members.lookup "$check" = some v → IsText v

mutual

inductive WellFormed : Value → Prop
  | literal {v : Value} (h : v.isObject = false) : WellFormed v
  | object {members : Members} (named : ChecksByName members)
      (each : ∀ member ∈ members, WellFormedMember (Quantified members) member) :
      WellFormed (.object members)

inductive WellFormedMember : Prop → String × Value → Prop
  | check {quantified : Prop} {v : Value} : WellFormedMember quantified ("$check", v)
  | data {quantified : Prop} {v : Value} (plain : ¬ quantified) :
      WellFormedMember quantified ("$value", v)
  | element {quantified : Prop} {v : Value} (h : quantified) (below : WellFormed v) :
      WellFormedMember quantified ("$value", v)
  | transform {quantified : Prop} {name : String} {t : Transform}
      (known : Transform.named? name = some t) : WellFormedMember quantified ("$func", .string name)
  | message {quantified : Prop} {text : String} :
      WellFormedMember quantified ("$eMessage", .string text)
  | field {quantified : Prop} {name : String} {v : Value} (free : name ∉ reservedNames)
      (below : WellFormed v) : WellFormedMember quantified (name, v)

end

inductive Flaw where
  | notAString (key : String)
  | unknownTransform (name : String)

def Flaw.at (path : Path) : Flaw → DocumentError
  | notAString key => .notAString path key
  | unknownTransform name => .unknownTransform path name

mutual

/-- The first violation in a document: the names of the fields that lead to the object, and its
flaw. -/
inductive FirstViolation : Value → List String → Flaw → Prop
  | check {members : Members} {v : Value} (found : members.lookup "$check" = some v)
      (other : ¬ IsText v) : FirstViolation (.object members) [] (.notAString "$check")
  | member {members before after : Members} {member : String × Value} {names : List String}
      {flaw : Flaw} (split : members = before ++ member :: after) (named : ChecksByName members)
      (passed : ∀ earlier ∈ before, WellFormedMember (Quantified members) earlier)
      (here : MemberViolation (Quantified members) member names flaw) :
      FirstViolation (.object members) names flaw

/-- The first violation in a member. Only a field adds its name; the `$value` of a quantifier does
not. -/
inductive MemberViolation : Prop → String × Value → List String → Flaw → Prop
  | element {quantified : Prop} {v : Value} {names : List String} {flaw : Flaw} (h : quantified)
      (below : FirstViolation v names flaw) : MemberViolation quantified ("$value", v) names flaw
  | transform {quantified : Prop} {v : Value} (other : ¬ IsText v) :
      MemberViolation quantified ("$func", v) [] (.notAString "$func")
  | unknown {quantified : Prop} {name : String} (h : Transform.named? name = none) :
      MemberViolation quantified ("$func", .string name) [] (.unknownTransform name)
  | message {quantified : Prop} {v : Value} (other : ¬ IsText v) :
      MemberViolation quantified ("$eMessage", v) [] (.notAString "$eMessage")
  | field {quantified : Prop} {name : String} {v : Value} {names : List String} {flaw : Flaw}
      (free : name ∉ reservedNames) (below : FirstViolation v names flaw) :
      MemberViolation quantified (name, v) (name :: names) flaw

end

section Dichotomy

theorem wellFormedMember_or_violation {key : String} {v : Value} (quantified : Prop)
    (below : WellFormed v ∨ ∃ names flaw, FirstViolation v names flaw) :
    WellFormedMember quantified (key, v) ∨
      ∃ names flaw, MemberViolation quantified (key, v) names flaw := by
  by_cases reserved : key ∈ reservedNames
  · simp only [reservedNames, List.mem_cons, List.not_mem_nil, or_false] at reserved
    rcases reserved with rfl | rfl | rfl | rfl
    · exact .inl .check
    · by_cases h : quantified
      · rcases below with below | ⟨names, flaw, below⟩
        · exact .inl (.element h below)
        · exact .inr ⟨names, flaw, .element h below⟩
      · exact .inl (.data h)
    · by_cases text : IsText v
      · obtain ⟨name, rfl⟩ := text
        cases known : Transform.named? name with
        | none => exact .inr ⟨_, _, .unknown known⟩
        | some t => exact .inl (.transform known)
      · exact .inr ⟨_, _, .transform text⟩
    · by_cases text : IsText v
      · obtain ⟨message, rfl⟩ := text
        exact .inl .message
      · exact .inr ⟨_, _, .message text⟩
  · rcases below with below | ⟨names, flaw, below⟩
    · exact .inl (.field reserved below)
    · exact .inr ⟨_, _, .field reserved below⟩

theorem wellFormed_or_violation (document : Value) :
    WellFormed document ∨ ∃ names flaw, FirstViolation document names flaw := by
  induction document with
  | primitive v h => exact .inl (.literal (Value.isObject_of_primitive h))
  | array items ih => exact .inl (.literal rfl)
  | object members ih =>
    by_cases named : ChecksByName members
    · have each : ∀ member ∈ members, WellFormedMember (Quantified members) member ∨
          ∃ names flaw, MemberViolation (Quantified members) member names flaw :=
        fun member inside => wellFormedMember_or_violation _ (ih member inside)
      rcases forall_or_exists_first each with all | ⟨before, member, after, split, passed, here⟩
      · exact .inl (.object named all)
      · obtain ⟨names, flaw, here⟩ := here
        exact .inr ⟨names, flaw, .member split named passed here⟩
    · obtain ⟨v, other⟩ := Classical.not_forall.mp named
      obtain ⟨found, other⟩ := Classical.not_imp.mp other
      exact .inr ⟨_, _, .check found other⟩

end Dichotomy

section Start

variable {path : Path} {members : Members} {r : Record}

theorem named?_eq_quantify_iff {name : String} :
    (∃ q, CheckKind.named? name = some (.quantify q)) ↔ name = "some" ∨ name = "every" := by
  constructor
  · rintro ⟨q, named⟩
    have entry := mem_of_lookup named
    simp [CheckKind.names] at entry
    rcases entry with ⟨rfl, _⟩ | ⟨rfl, _⟩
    · exact .inl rfl
    · exact .inr rfl
  · rintro (rfl | rfl)
    · exact ⟨.some, rfl⟩
    · exact ⟨.every, rfl⟩

theorem namesQuantifier_iff : namesQuantifier members = true ↔ Quantified members := by
  unfold namesQuantifier Quantified
  split
  · rename_i name found
    have kinds : (∃ q, CheckKind.named? name = some (.quantify q)) ↔
        name = "some" ∨ name = "every" := named?_eq_quantify_iff
    rw [found]
    split
    · rename_i q named
      simpa using kinds.mp ⟨q, named⟩
    · rename_i other
      have none : ¬ (name = "some" ∨ name = "every") := by
        rw [← kinds]
        rintro ⟨q, named⟩
        exact other q named
      simpa using none
  · rename_i other
    constructor
    · intro h
      contradiction
    · rintro (found | found)
      · exact absurd found (other "some")
      · exact absurd found (other "every")

theorem start_isQuantified (started : start path members = .ok r) :
    isQuantified r = true ↔ Quantified members := by
  rw [(start_eq_ok started).1, namesQuantifier_iff]

theorem start_of_named (path : Path) (named : ChecksByName members) :
    ∃ r, start path members = .ok r ∧ (isQuantified r = true ↔ Quantified members) := by
  obtain ⟨check, found⟩ : ∃ check : Option String,
      members.lookup "$check" = check.map .string := by
    cases found : members.lookup "$check" with
    | none => exact ⟨none, rfl⟩
    | some v =>
      obtain ⟨name, rfl⟩ := named v found
      exact ⟨some name, rfl⟩
  have started := (@start_eq_ok_iff path _ _).mpr ⟨check, found, rfl⟩
  exact ⟨_, started, start_isQuantified started⟩

theorem expectText_of_other {key : String} {v : Value} (other : ¬ IsText v) :
    expectText path key v = .error (.notAString path key) := by
  cases v with
  | string text => exact absurd ⟨text, rfl⟩ other
  | _ => rfl

theorem start_of_other {v : Value} (found : members.lookup "$check" = some v)
    (other : ¬ IsText v) : start path members = .error (.notAString path "$check") := by
  simp [start, found, expectText_of_other other, Except.map]

end Start

section Members

variable {path : Path} {r : Record} {quantified : Prop} {key : String} {v : Value}

theorem WellFormedMember.exists_read (h : WellFormedMember quantified (key, v))
    (kind : isQuantified r = true ↔ quantified)
    (below : WellFormed v → ∀ path, ∃ e, parseAt path v = .ok e) :
    ∃ next, MemberRead path r (key, v) next := by
  cases h with
  | check => exact ⟨_, .check⟩
  | data plain => exact ⟨_, .value (by simpa [plain] using kind)⟩
  | element h inner =>
    obtain ⟨e, read⟩ := below inner path
    exact ⟨_, .element (kind.mpr h) read⟩
  | @transform _ name t known =>
    exact ⟨_, .transform (expectTransform_eq_ok_iff.mpr ⟨name, rfl, known⟩)⟩
  | message => exact ⟨_, .message⟩
  | field free inner =>
    obtain ⟨e, read⟩ := below inner (path.push key)
    exact ⟨_, .field free read⟩

theorem MemberViolation.parseMembers_eq {names : List String} {flaw : Flaw}
    (h : MemberViolation quantified (key, v) names flaw) (kind : isQuantified r = true ↔ quantified)
    (below : ∀ names flaw, FirstViolation v names flaw → ∀ path,
      parseAt path v = .error (flaw.at ⟨path.segments ++ names⟩)) (rest : Members) :
    parseMembers path r ((key, v) :: rest) = .error (flaw.at ⟨path.segments ++ names⟩) := by
  cases h with
  | element h inner =>
    have read := below _ _ inner path
    simp [parseMembers, kind.mpr h, read, bind, Except.bind, Except.map]
  | transform other =>
    simp [parseMembers, expectTransform, expectText_of_other other, bind, Except.bind, Flaw.at]
  | unknown unknown =>
    simp [parseMembers, expectTransform, expectText, unknown, bind, Except.bind, Flaw.at]
  | message other =>
    simp [parseMembers, expectText_of_other other, bind, Except.bind, Flaw.at]
  | field free inner =>
    have read := below _ _ inner (path.push key)
    rw [parseMembers_cons free, read]
    simp [Except.bind]

theorem exists_parseMembers_append {before : Members} (kind : isQuantified r = true ↔ quantified)
    (each : ∀ member ∈ before, ∀ r, (isQuantified r = true ↔ quantified) →
      ∃ next, MemberRead path r member next) :
    ∃ next, (isQuantified next = true ↔ quantified) ∧
      ∀ after, parseMembers path r (before ++ after) = parseMembers path next after := by
  induction before generalizing r with
  | nil => exact ⟨r, kind, fun after => rfl⟩
  | cons member rest ih =>
    obtain ⟨head, tail⟩ := List.forall_mem_cons.mp each
    obtain ⟨middle, read⟩ := head r kind
    obtain ⟨next, kind, onwards⟩ := ih (read.isQuantified_eq ▸ kind) tail
    refine ⟨next, kind, fun after => ?_⟩
    rw [List.cons_append, parseMembers_of_read read, onwards]

end Members

theorem parseAt_follows_grammar (document : Value) :
    (WellFormed document → ∀ path, ∃ e, parseAt path document = .ok e) ∧
      ∀ names flaw, FirstViolation document names flaw → ∀ path,
        parseAt path document = .error (flaw.at ⟨path.segments ++ names⟩) := by
  induction document with
  | primitive v h =>
    constructor
    · intro _ path
      exact ⟨_, parseAt_of_primitive (Value.isObject_of_primitive h) path⟩
    · intro names flaw violation
      cases violation <;> contradiction
  | array items ih => exact ⟨fun _ path => ⟨_, rfl⟩, nofun⟩
  | object members ih =>
    -- Both directions read the members that pass one by one, up to the end or to the violation.
    have passes : ∀ path member, member ∈ members →
        WellFormedMember (Quantified members) member → ∀ r,
        (isQuantified r = true ↔ Quantified members) → ∃ next, MemberRead path r member next :=
      fun path member inside h r kind => h.exists_read kind (ih member inside).1
    constructor
    · intro wellFormed path
      cases wellFormed with
      | literal h => contradiction
      | object named each =>
        obtain ⟨r, started, kind⟩ := start_of_named path named
        obtain ⟨last, _, onwards⟩ := exists_parseMembers_append kind
          fun member inside => passes path member inside (each member inside)
        have read := onwards []
        rw [List.append_nil] at read
        refine ⟨last.toExpectation, ?_⟩
        rw [parseAt, started]
        simp [bind, Except.bind, read, parseMembers]
    · intro names flaw violation path
      rw [parseAt]
      cases violation with
      | check found other =>
        rw [start_of_other found other]
        simp [bind, Except.bind, Flaw.at]
      | @member _ before after member _ _ split named passed here =>
        obtain ⟨r, started, kind⟩ := start_of_named path named
        have earlier : ∀ member ∈ before, member ∈ members := by
          intro member inside
          simp [split, inside]
        obtain ⟨next, kind, onwards⟩ := exists_parseMembers_append kind
          fun member inside => passes path member (earlier member inside) (passed member inside)
        have inside : member ∈ members := by simp [split]
        have read : parseMembers path r members = .error (flaw.at ⟨path.segments ++ names⟩) := by
          rw [split, onwards]
          exact here.parseMembers_eq kind (ih member inside).2 after
        rw [started]
        simp [bind, Except.bind, read]

/-- Reading accepts exactly the well-formed documents. Any other document is refused with the flaw
of its first violation, at the path of the field names that lead there. -/
theorem parse_follows_grammar (document : Value) :
    ((∃ e, parse document = .ok e) ↔ WellFormed document) ∧
      ∀ err, parse document = .error err ↔
        ∃ names flaw, FirstViolation document names flaw ∧ err = flaw.at ⟨names⟩ := by
  obtain ⟨accepted, refused⟩ := parseAt_follows_grammar document
  have atRoot : ∀ names flaw, FirstViolation document names flaw →
      parse document = .error (flaw.at ⟨names⟩) := by
    intro names flaw violation
    exact refused names flaw violation .root
  refine ⟨⟨?_, fun h => accepted h .root⟩, fun err => ⟨?_, ?_⟩⟩
  · rintro ⟨e, read⟩
    rcases wellFormed_or_violation document with wellFormed | ⟨names, flaw, violation⟩
    · exact wellFormed
    · rw [atRoot names flaw violation] at read
      contradiction
  · intro failed
    rcases wellFormed_or_violation document with wellFormed | ⟨names, flaw, violation⟩
    · obtain ⟨e, read⟩ := accepted wellFormed .root
      rw [parse, read] at failed
      contradiction
    · rw [atRoot names flaw violation] at failed
      exact ⟨names, flaw, violation, (Except.error.inj failed).symm⟩
  · rintro ⟨names, flaw, violation, rfl⟩
    exact atRoot names flaw violation

/-- The key that comes second in the object is examined first. -/
example : parse (.object [("a", .object [("$func", .int 1), ("$check", .null)])]) =
    .error (.notAString ⟨["a"]⟩ "$check") := rfl

end DataMatch.Document
