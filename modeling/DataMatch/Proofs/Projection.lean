import DataMatch.Document
import DataMatch.Proofs.Equality
import DataMatch.Proofs.PositionText
import DataMatch.Proofs.Reach
import DataMatch.Proofs.Soundness

/-! Projections: templates that repeat some parts of a value, in any order and to any depth. A value
matches each of its projections, also when the template comes from a document. -/
namespace DataMatch

/-- The keys by which a template may name a part of a value: the key of a member, or the position
of an item, counted from the front or from the end. -/
inductive NamesPart : Value → String → Value → Prop
  | member {members : Members} {key : String} {part : Value}
      (found : members.lookup key = some part) : NamesPart (.object members) key part
  | position {items : List Value} {i : Nat} {part : Value} (found : items[i]? = some part) :
      NamesPart (.array items) (toString i) part
  | fromEnd {items : List Value} {i : Nat} {part : Value} (found : items[i]? = some part) :
      NamesPart (.array items) (toString ((i : Int) - items.length)) part

structure Pick where
  key : String
  part : Value
  template : Expectation

def Pick.field (p : Pick) : String × Expectation := (p.key, p.template)

/-- A primitive is its own projection. One of a container is a record without slots that picks some
of the parts, each with a projection of it. -/
inductive Projection : Value → Expectation → Prop
  | primitive {v : Value} (h : v.isContainer = false) : Projection v (.literal v)
  | container {v : Value} {picks : List Pick} (h : v.isContainer = true)
      (named : ∀ p ∈ picks, NamesPart v p.key p.part)
      (each : ∀ p ∈ picks, Projection p.part p.template) :
      Projection v (.record .none (picks.map Pick.field))

theorem field?_of_lookup {members : Members} {key : String} {part : Value}
    (found : members.lookup key = some part) : (Value.object members).field? key = some part := by
  have direct : (Value.object members).get? key = some part := found
  rw [Value.field?, direct]

theorem NamesPart.leads {v part : Value} {key : String} (addressable : v.Addressable)
    (h : NamesPart v key part) : v.part? key = some part := by
  cases h with
  | member found => exact field?_of_lookup found
  | position found => exact position_leads (Nat.le_of_lt addressable.length_lt) found
  | fromEnd found => exact position_fromEnd_leads (Nat.le_of_lt addressable.length_lt) found

theorem Projection.matches {v : Value} {t : Expectation} (h : Projection v t)
    (addressable : v.Addressable) : Matches (some v) t := by
  induction h with
  | primitive h => exact .literal h (Value.looseEq_self (.primitive h))
  | @container v picks h named each ih =>
    -- However a part is named, the comparison looks it up as a path would.
    have leads : ∀ p ∈ picks, v.part? p.key = some p.part :=
      fun p member => (named p member).leads addressable
    have below : ∀ p ∈ picks, Matches (v.part? p.key) p.template := by
      intro p member
      rw [leads p member]
      exact ih p member (addressable.part (leads p member))
    cases v with
    | object members => exact .object (List.forall_mem_map.mpr below)
    | array items =>
      refine .positions (List.forall_mem_map.mpr fun p member => ?_) (List.forall_mem_map.mpr below)
      obtain ⟨index, parsed, _⟩ := Option.bind_eq_some_iff.mp (leads p member)
      exact Option.isSome_of_eq_some parsed
    | _ => contradiction

def reservedNames : List String := ["$check", "$value", "$func", "$eMessage"]

inductive Expectation.Unreserved : Expectation → Prop
  | literal (v : Value) : Unreserved (.literal v)
  | record {s : Slots} {fields : Fields} (names : ∀ field ∈ fields, field.1 ∉ reservedNames)
      (children : ∀ field ∈ fields, Unreserved field.2) : Unreserved (.record s fields)

mutual

def Expectation.document : Expectation → Value
  | .literal v => v
  | .record _ fields => .object (fieldDocuments fields)

def fieldDocuments : List (String × Expectation) → List (String × Value)
  | [] => []
  | (name, child) :: rest => (name, child.document) :: fieldDocuments rest

end

namespace Document

variable {path : Path} {fields : Fields}

theorem start_fieldDocuments (names : ∀ field ∈ fields, field.1 ∉ reservedNames) :
    start path (fieldDocuments fields) = .ok .new := by
  have absent : (fieldDocuments fields).lookup "$check" = none := by
    induction fields with
    | nil => rfl
    | cons field rest ih =>
      obtain ⟨name, child⟩ := field
      have distinct : "$check" ≠ name := by
        rintro rfl
        exact names _ List.mem_cons_self (by simp [reservedNames])
      rw [fieldDocuments, List.lookup_cons, beq_false_of_ne distinct]
      exact ih fun field member => names field (List.mem_cons_of_mem _ member)
  rw [start, absent]

theorem parseMembers_cons {r : Record} {name : String} {v : Value} {rest : Members}
    (free : name ∉ reservedNames) :
    parseMembers path r ((name, v) :: rest) =
      (parseAt (path.push name) v).bind fun e => parseMembers path (r.field name e) rest := by
  simp only [reservedNames, List.mem_cons, List.not_mem_nil, or_false, not_or] at free
  obtain ⟨notCheck, notValue, notFunc, notMessage⟩ := free
  rw [parseMembers]
  · rfl
  all_goals assumption

theorem parseMembers_fieldDocuments (names : ∀ field ∈ fields, field.1 ∉ reservedNames)
    (children : ∀ field ∈ fields, ∀ below, parseAt below field.2.document = .ok field.2)
    (r : Record) :
    parseMembers path r (fieldDocuments fields) = .ok { r with fields := r.fields ++ fields } := by
  induction fields generalizing r with
  | nil => simp [fieldDocuments, parseMembers]
  | cons field rest ih =>
    obtain ⟨name, child⟩ := field
    rw [List.forall_mem_cons] at names children
    rw [fieldDocuments, parseMembers_cons names.1, children.1, Except.bind, ih names.2 children.2,
      Record.field, List.append_assoc, List.singleton_append]

end Document

theorem Projection.parseAt_document {v : Value} {t : Expectation} (h : Projection v t)
    (free : t.Unreserved) (path : Path) : Document.parseAt path t.document = .ok t := by
  induction h generalizing path with
  | @primitive v h =>
    cases v with
    | array items => contradiction
    | object members => contradiction
    | _ => rfl
  | @container v picks h named each ih =>
    cases free with
    | record names children =>
      have below : ∀ field ∈ picks.map Pick.field, ∀ path,
          Document.parseAt path field.2.document = .ok field.2 := by
        refine List.forall_mem_map.mpr fun p member path => ?_
        exact ih p member (children _ (List.mem_map_of_mem member)) path
      rw [Expectation.document, Document.parseAt, Document.start_fieldDocuments names]
      simp only [bind, Except.bind, Document.parseMembers_fieldDocuments names below]
      rfl

/-- A value matches each of its projections, and the expectation that is read from the document of
one as long as no name in it is reserved. -/
theorem check_projection {v : Value} {t : Expectation} (addressable : v.Addressable)
    (projection : Projection v t) :
    check v t = .ok () ∧
      (t.Unreserved → ∃ e, Document.parse t.document = .ok e ∧ check v e = .ok ()) := by
  have passes : check v t = .ok () := by
    rw [check, (projection.matches addressable).compare_eq]
    rfl
  exact ⟨passes, fun free => ⟨t, projection.parseAt_document free .root, passes⟩⟩

def reading : Value :=
  .object [("a.b", .string "x"), ("a", .object [("b", .array [.bool true, .null])])]

def readingPicks : List Pick :=
  [⟨"a", .object [("b", .array [.bool true, .null])],
      .record .none [("b", .record .none [("-1", .literal .null), ("0", .literal (.bool true))])]⟩,
    ⟨"a.b", .string "x", .literal (.string "x")⟩]

def readingTemplate : Expectation := .record .none (readingPicks.map Pick.field)

theorem check_projection_reading :
    reading.Addressable ∧ Projection reading readingTemplate ∧ readingTemplate.Unreserved ∧
      check reading readingTemplate = .ok () ∧
      ∃ e, Document.parse readingTemplate.document = .ok e ∧ check reading e = .ok () := by
  have short : (Value.array [.bool true, .null]).Addressable :=
    .array (show 2 < Nat.pow 2 63 by decide) (by simpa using ⟨.primitive rfl, .primitive rfl⟩)
  have addressable : reading.Addressable :=
    .object (by simpa using ⟨.primitive rfl, .object (by simpa using short)⟩)
  have items : Projection (.array [.bool true, .null])
      (.record .none [("-1", .literal .null), ("0", .literal (.bool true))]) := by
    refine @Projection.container _ [⟨"-1", .null, .literal .null⟩,
      ⟨"0", .bool true, .literal (.bool true)⟩] rfl ?_ ?_
    · have last : NamesPart (.array [.bool true, .null]) "-1" .null := @NamesPart.fromEnd _ 1 _ rfl
      have first : NamesPart (.array [.bool true, .null]) "0" (.bool true) :=
        @NamesPart.position _ 0 _ rfl
      simpa using ⟨last, first⟩
    · simpa using ⟨Projection.primitive rfl, Projection.primitive rfl⟩
  have inner : Projection (.object [("b", .array [.bool true, .null])])
      (.record .none [("b", .record .none
        [("-1", .literal .null), ("0", .literal (.bool true))])]) := by
    refine @Projection.container _ [⟨"b", .array [.bool true, .null], .record .none
      [("-1", .literal .null), ("0", .literal (.bool true))]⟩] rfl ?_ ?_
    · exact List.forall_mem_singleton.mpr (.member rfl)
    · exact List.forall_mem_singleton.mpr items
  have projection : Projection reading readingTemplate := by
    refine .container rfl ?_ ?_
    · exact List.forall_mem_cons.mpr ⟨.member rfl, List.forall_mem_singleton.mpr (.member rfl)⟩
    · exact List.forall_mem_cons.mpr
        ⟨inner, List.forall_mem_singleton.mpr (.primitive rfl)⟩
  have free : readingTemplate.Unreserved := by
    refine .record (by decide) ?_
    refine List.forall_mem_cons.mpr ⟨?_, List.forall_mem_singleton.mpr (.literal _)⟩
    refine .record (by decide) (List.forall_mem_singleton.mpr ?_)
    refine .record (by decide) (List.forall_mem_cons.mpr ⟨.literal _, ?_⟩)
    exact List.forall_mem_singleton.mpr (.literal _)
  obtain ⟨passes, fromDocument⟩ := check_projection addressable projection
  exact ⟨addressable, projection, free, passes, fromDocument free⟩

end DataMatch
