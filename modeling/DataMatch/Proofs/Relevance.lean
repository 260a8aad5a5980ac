import DataMatch.Proofs.Growth
import DataMatch.Proofs.Reading

/-! Data that a template does not name is ignored. An expectation read from a document without
transforms compares a value and a grown value alike: it looks at members under the keys it names
only, and what it says of containers does not depend on their members. -/
namespace DataMatch

/-- The name of a field and all segments that it may be walked by are among the named keys. -/
def Covered (named : List String) (name : String) : Prop :=
  name ∈ named ∧ ∀ segment ∈ Value.splitName name, segment ∈ named

def Steady (named : List String) (e : Expectation) : Prop :=
  ∀ ⦃x y : Option Value⦄, FoundGrown named x y → ∀ path, e.compare x path = e.compare y path

/-- Slots that do not show a value to a function, apart from a test that answers grown values in the
same way. -/
structure SteadySlots (named : List String) (s : Slots) : Prop where
  untransformed : s.transform = none
  unrendered : ∀ text, s.message ≠ some (.render text)
  test : ∀ test, s.operand = some (.predicate test) →
    ∀ v w, Grown named v w → test v = test w

variable {named : List String} {s : Slots} {fields : Fields} {v w : Value}
  {xs ys : List Value}

theorem Steady.satisfies {e : Expectation} (steady : Steady named e) (grown : Grown named v w) :
    Document.satisfies e v = Document.satisfies e w := by
  unfold Document.satisfies check
  rw [steady (.some grown) .root]

theorem SteadySlots.failureText (steady : SteadySlots named s) (path : Path) :
    s.failureText v path = s.failureText w path := by
  unfold Slots.failureText
  cases message : s.message with
  | none => rfl
  | some m =>
    cases m with
    | literal text => cases s.operand with
      | none => rfl
      | some operand => cases operand <;> rfl
    | render text => exact absurd message (steady.unrendered text)

theorem Misused.same {e : Expectation} {m : Misuse} (left : Misused v e m) (right : Misused w e m)
    (path : Path) : e.compare (some v) path = e.compare (some w) path := by
  rw [left.compare_eq, right.compare_eq]

theorem forM_zipIdx_congr {ε : Type} {f g : Value × Nat → Except ε Unit}
    (each : List.Forall₂ (Grown named) xs ys)
    (same : ∀ v w i, Grown named v w → f (v, i) = g (w, i)) (first : Nat) :
    (xs.zipIdx first).forM f = (ys.zipIdx first).forM g := by
  induction each generalizing first with
  | nil => rfl
  | cons head tail ih =>
    rw [List.zipIdx_cons, List.zipIdx_cons, forM_cons, forM_cons, same _ _ first head, ih]

theorem holds_of_grown {test : Predicate} (q : Quantifier)
    (each : List.Forall₂ (Grown named) xs ys)
    (same : ∀ v w, Grown named v w → test v = test w) : q.holds test xs = q.holds test ys := by
  induction each with
  | nil => rfl
  | @cons v w xs ys head tail ih =>
    have answer := same v w head
    by_cases pass : test v = .ok (q == .every)
    · rw [holds_cons_of_pass pass, holds_cons_of_pass (answer ▸ pass), ih]
    · rw [holds_cons_of_other pass, holds_cons_of_other (answer ▸ pass), answer]

theorem steady_literal (expected : Value) : Steady named (.literal expected) := by
  intro x y found path
  cases found with
  | none => rfl
  | some grown =>
    cases grown.view with
    | primitive h => rfl
    | object each => exact Misused.same .literalOnObject .literalOnObject path
    | array each => exact Misused.same .literalOnArray .literalOnArray path

theorem steady_plain (names : ∀ field ∈ fields, Covered named field.1)
    (children : ∀ field ∈ fields, Steady named field.2) :
    Steady named (.record .none fields) := by
  intro x y found path
  cases found with
  | none => rfl
  | @some v w grown =>
    cases grown.view with
    | primitive h => rfl
    | @object members members' each =>
      rw [compare_object, compare_object]
      refine forM_congr fun field member => ?_
      obtain ⟨name, segments⟩ := names field member
      exact children field member (grown.field? name segments) _
    | @array items items' each =>
      by_cases integers : ∀ field ∈ fields, (parseIndex field.1).isSome = true
      · rw [compare_positions integers, compare_positions integers]
        refine forM_congr fun field member => children field member ?_ _
        cases parseIndex field.1 with
        | none => exact .none
        | some index => exact items_resolveIndex each index
      · obtain ⟨field, notInteger⟩ := Classical.not_forall.mp integers
        obtain ⟨member, name⟩ := Classical.not_imp.mp notInteger
        have name : parseIndex field.1 = none := by simpa using name
        exact Misused.same (.nameOnArray member name) (.nameOnArray member name) path

theorem compare_directive_of_grown (steady : SteadySlots named s) (set : s ≠ .none)
    (plain : Steady named (.record .none fields)) (each : List.Forall₂ (Grown named) xs ys)
    (path : Path) :
    (Expectation.record s fields).compare (some (.array xs)) path =
      (Expectation.record s fields).compare (some (.array ys)) path := by
  rcases directive_on_array_cases set fields with
    ⟨m, misused⟩ | kind | ⟨q, test, kind, operand⟩ | ⟨op, expected, kind, operand⟩
  · exact Misused.same (misused xs) (misused ys) path
  · rw [compare_forEach kind, compare_forEach kind]
    exact forM_zipIdx_congr each (fun v w i grown => plain (.some grown) _) 0
  · have text : s.failureText (.array xs) path = s.failureText (.array ys) path :=
      steady.failureText path
    have answer : q.holds test xs = q.holds test ys :=
      holds_of_grown q each (steady.test test operand)
    rw [compare_quantified kind operand, compare_quantified kind operand, Quantifier.evaluate,
      Quantifier.evaluate, text, answer]
  · -- Without a transform an array is no operand, whatever its items are.
    have raw : ∀ items, Misused (.array items) (.record s fields)
        (.containerOperand "array" expected.kindName) := by
      intro items
      refine Misused.containerOperand (v := .array items) rfl kind operand ?_
      intro comparable
      have primitive := (comparable steady.untransformed).1
      contradiction
    exact Misused.same (raw xs) (raw ys) path

theorem steady_record (slots : SteadySlots named s)
    (names : ∀ field ∈ fields, Covered named field.1)
    (children : ∀ field ∈ fields, Steady named field.2) : Steady named (.record s fields) := by
  have plain : Steady named (.record .none fields) := steady_plain names children
  by_cases set : s = .none
  · rw [set]
    exact plain
  · intro x y found path
    cases found with
    | none => rfl
    | some grown =>
      cases grown.view with
      | primitive h => rfl
      | object each => exact Misused.same (.directiveOnObject set) (.directiveOnObject set) path
      | array each => exact compare_directive_of_grown slots set plain each path

structure SteadyRecord (named : List String) (r : Record) : Prop where
  slots : SteadySlots named r.slots
  names : ∀ field ∈ r.fields, Covered named field.1
  children : ∀ field ∈ r.fields, Steady named field.2

namespace Document

variable {path : Path} {r next : Record} {members : Members} {key : String} {value : Value}

theorem MemberRead.steady (read : MemberRead path r (key, value) next)
    (plain : key ≠ "$func") (covered : key ∉ reservedNames → Covered named key)
    (below : isRead (isQuantified r) key = true → ∀ path e, parseAt path value = .ok e →
      Steady named e) (steady : SteadyRecord named r) : SteadyRecord named next := by
  obtain ⟨⟨untransformed, unrendered, test⟩, names, children⟩ := steady
  cases read with
  | check => exact ⟨⟨untransformed, unrendered, test⟩, names, children⟩
  | value raw => exact ⟨⟨untransformed, unrendered, nofun⟩, names, children⟩
  | @element v e quantified read =>
    have element : Steady named e := below (by simp [isRead, quantified]) path e read
    refine ⟨⟨untransformed, unrendered, ?_⟩, names, children⟩
    rintro _ same v w grown
    cases same
    exact element.satisfies grown
  | transform read => exact absurd rfl plain
  | message => exact ⟨⟨untransformed, nofun, test⟩, names, children⟩
  | @field name v e free read =>
    have child : Steady named e := below (by simp [isRead, free]) _ e read
    refine ⟨⟨untransformed, unrendered, test⟩, ?_, ?_⟩
    · exact List.forall_mem_append.mpr ⟨names, List.forall_mem_singleton.mpr (covered free)⟩
    · exact List.forall_mem_append.mpr ⟨children, List.forall_mem_singleton.mpr child⟩

theorem start_steady (started : start path members = .ok r) : SteadyRecord named r := by
  obtain ⟨_, fields, slots⟩ := start_eq_ok started
  refine ⟨?_, ?_, ?_⟩
  · rw [slots]
    exact ⟨rfl, nofun, nofun⟩
  · rw [fields]
    exact nofun
  · rw [fields]
    exact nofun

theorem parseAt_steady (document : Value)
    (plain : ∀ members ∈ readObjects document, ∀ member ∈ members,
      member.1 ≠ "$func" ∧ (member.1 ∉ reservedNames → Covered named member.1))
    (path : Path) (e : Expectation) (read : parseAt path document = .ok e) : Steady named e := by
  induction document generalizing path e with
  | primitive v h =>
    rw [parseAt_primitive (Value.isObject_of_primitive h) read]
    exact steady_literal v
  | array items ih =>
    rw [parseAt_primitive rfl read]
    exact steady_literal _
  | object members ih =>
    rw [readObjects, List.forall_mem_cons] at plain
    obtain ⟨own, below⟩ := plain
    obtain ⟨first, last, started, finished, rfl⟩ := parseAt_object read
    -- Whether `$value` is read depends on `$check`, which no member changes any more.
    have kept : SteadyRecord named last ∧ isQuantified last = namesQuantifier members := by
      refine parseMembers_keeps (fun r =>
        SteadyRecord named r ∧ isQuantified r = namesQuantifier members) ?_ ?_ finished
      · rintro ⟨key, value⟩ member r next step ⟨steady, quantified⟩
        obtain ⟨untransformed, covered⟩ := own _ member
        refine ⟨step.steady untransformed covered ?_ steady, ?_⟩
        · intro inside
          rw [quantified] at inside
          refine ih (key, value) member fun o found => ?_
          exact below o (mem_memberObjects member inside found)
        · rw [step.isQuantified_eq, quantified]
      · exact ⟨start_steady started, (start_eq_ok started).1⟩
    exact steady_record kept.1.slots kept.1.names kept.1.children

end Document

def fieldNames (document : Value) : List String :=
  (Document.readObjects document).flatMap fun members =>
    (members.map (·.1)).filter (· ∉ reservedNames)

def namedKeys (document : Value) : List String :=
  (fieldNames document).flatMap fun name => name :: Value.splitName name

def Untransformed (document : Value) : Prop :=
  ∀ members ∈ Document.readObjects document, ∀ member ∈ members, member.1 ≠ "$func"

instance (document : Value) : Decidable (Untransformed document) :=
  inferInstanceAs (Decidable (∀ members ∈ Document.readObjects document, ∀ member ∈ members,
    member.1 ≠ "$func"))

theorem covered_namedKeys {document : Value} {members : Members} {member : String × Value}
    (read : members ∈ Document.readObjects document) (inside : member ∈ members)
    (free : member.1 ∉ reservedNames) : Covered (namedKeys document) member.1 := by
  have name : member.1 ∈ fieldNames document := by
    refine List.mem_flatMap.mpr ⟨members, read, ?_⟩
    simpa [free] using ⟨_, inside⟩
  constructor
  · exact List.mem_flatMap.mpr ⟨_, name, List.mem_cons_self⟩
  · intro segment listed
    exact List.mem_flatMap.mpr ⟨_, name, List.mem_cons_of_mem _ listed⟩

/-- Data that a template does not name is ignored. When a document without transforms is accepted,
members under keys that it does not name may be added and members may be reordered: the outcome is
the same from every path, with what it reports. -/
theorem compare_ignores_unnamed {document : Value} {e : Expectation} {actual grown : Value}
    (accepted : Document.parse document = .ok e) (untransformed : Untransformed document)
    (growth : Grown (namedKeys document) actual grown) (path : Path) :
    e.compare (some actual) path = e.compare (some grown) path := by
  have steady : Steady (namedKeys document) e := by
    refine Document.parseAt_steady document ?_ .root e accepted
    intro members read member inside
    exact ⟨untransformed members read member inside, covered_namedKeys read inside⟩
  exact steady (.some growth) path

def tagsDocument : Value :=
  .object [("user.name", .string "ann"), ("tags", .object [("$value", .object [("t", .int 1)]),
    ("$check", .string "every")])]

def tagsExpectation : Expectation :=
  .record .none [("user.name", .literal (.string "ann")),
    ("tags", .record ⟨some "every", some (.predicate (Document.satisfies
      (.record .none [("t", .literal (.int 1))]))), none, none⟩ [])]

def tagged : Value :=
  .object [("user", .object [("name", .string "ann")]),
    ("tags", .array [.object [("t", .int 1)], .object [("t", .int 2)]])]

def taggedGrown : Value :=
  .object [("tags", .array [.object [("t", .int 1)], .object [("z", .null), ("t", .int 2)]]),
    ("extra", .array []), ("user", .object [("id", .int 7), ("name", .string "ann")])]

theorem compare_ignores_unnamed_tagged :
    Document.parse tagsDocument = .ok tagsExpectation ∧ Untransformed tagsDocument ∧
      Grown (namedKeys tagsDocument) tagged taggedGrown ∧
      tagsExpectation.compare (some tagged) .root =
        .error ⟨⟨["tags"]⟩, .assertion ⟨["tags"]⟩ "Incorrect \"tags\"."⟩ ∧
      tagsExpectation.compare (some tagged) .root =
        tagsExpectation.compare (some taggedGrown) .root := by
  have accepted : Document.parse tagsDocument = .ok tagsExpectation := rfl
  have untransformed : Untransformed tagsDocument := by decide
  have keys : namedKeys tagsDocument = ["user.name", "user", "name", "tags", "tags", "t", "t"] := rfl
  have growth : Grown (namedKeys tagsDocument) tagged taggedGrown := by
    rw [keys]
    have user : Grown ["user.name", "user", "name", "tags", "tags", "t", "t"]
        (.object [("name", .string "ann")]) (.object [("id", .int 7), ("name", .string "ann")]) :=
      @Grown.insert _ [] _ "id" _ (by decide)
    have tag : Grown ["user.name", "user", "name", "tags", "tags", "t", "t"]
        (.object [("t", .int 2)]) (.object [("z", .null), ("t", .int 2)]) :=
      @Grown.insert _ [] _ "z" _ (by decide)
    refine .trans (@Grown.member _ [] _ "user" _ _ user) ?_
    refine .trans (@Grown.member _ [_] [] "tags" _ _
      (@Grown.item _ [.object [("t", .int 1)]] [] _ _ tag)) ?_
    refine .trans (@Grown.insert _ [_] [_] "extra" (.array []) (by decide)) ?_
    exact .reorder (by decide) (List.reverse_perm _).symm
  exact ⟨accepted, untransformed, growth, rfl,
    compare_ignores_unnamed accepted untransformed growth .root⟩

end DataMatch
