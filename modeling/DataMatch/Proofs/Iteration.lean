import DataMatch.Match.Data
import DataMatch.Proofs.Reading
import DataMatch.Proofs.Relocation

/-! The ways to go through an array. `forEach` is the record that has one field for each position;
an array as the input, `forEach` and `every` accept the same arrays, and what each reports is fixed
by the first item that does not match. -/
namespace DataMatch

section Unrolling

variable {s : Slots} {fields : Fields} {items : List Value}

/-- The record with one field for each of the first `n` positions, each with the fields of `r`. -/
def Record.unrolled (r : Record) (n : Nat) : Record :=
  ⟨.none, (List.range n).map fun i => (toString i, r.stripped.toExpectation)⟩

theorem compare_unrolled (r : Record) (short : items.length < Nat.pow 2 63) (path : Path) :
    (r.unrolled items.length).toExpectation.compare (some (.array items)) path =
      items.zipIdx.forM fun item =>
        r.stripped.toExpectation.compare (some item.1) (path.push (toString item.2)) := by
  have positions : List.range items.length = items.zipIdx.map (·.2) := by
    rw [List.zipIdx_map_snd, List.range_eq_range']
  have integers : ∀ field ∈ (r.unrolled items.length).fields,
      (parseIndex field.1).isSome = true := by
    intro field member
    obtain ⟨i, inside, rfl⟩ := List.mem_map.mp member
    have bound : i < items.length := List.mem_range.mp inside
    exact Option.isSome_of_eq_some (parseIndex_position (by omega))
  rw [Record.toExpectation]
  refine (compare_positions integers items path).trans ?_
  rw [Record.unrolled, positions, List.map_map]
  refine List.forM_map.trans ?_
  refine forM_congr fun (item, i) member => ?_
  have found : items[i]? = some item := List.mk_mem_zipIdx_iff_getElem?.mp member
  have leads := position_leads (Nat.le_of_lt short) found
  simp only [Function.comp_apply]
  rw [leads]

/-- `forEach` is the record of all positions: the same verdict with the same report, and the path is
left at the same place, whatever other slots are set beside `forEach`. -/
theorem forEach_unrolled (r : Record) (check : r.slots.check = some "forEach")
    (short : items.length < Nat.pow 2 63) (path : Path) :
    (r.toExpectation.walk (some (.array items))).run path =
      ((r.unrolled items.length).toExpectation.walk (some (.array items))).run path := by
  have kind : r.slots.kind? = some .forEach := kind_of_check check rfl
  have same : r.toExpectation.compare (some (.array items)) path =
      (r.unrolled items.length).toExpectation.compare (some (.array items)) path := by
    rw [compare_unrolled r short]
    exact compare_forEach kind r.fields items path
  rw [walk_run_eq, walk_run_eq, same]

def rowsBeginWithOne : Record :=
  ((Record.new.field "0" (.literal (.int 1))).value .null).check "forEach"

theorem forEach_unrolled_rows :
    rowsBeginWithOne.slots.check = some "forEach" ∧
      [Value.array [.int 1], .array [.int 2]].length < Nat.pow 2 63 ∧
      (rowsBeginWithOne.toExpectation.walk
          (some (.array [.array [.int 1], .array [.int 2]]))).run ⟨["rows"]⟩ =
        .error (.assertion ⟨["rows", "1", "0"]⟩ "Incorrect \"rows.1.0\".") ⟨["rows", "1", "0"]⟩ ∧
      (rowsBeginWithOne.toExpectation.walk
          (some (.array [.array [.int 1], .array [.int 2]]))).run ⟨["rows"]⟩ =
        ((rowsBeginWithOne.unrolled 2).toExpectation.walk
          (some (.array [.array [.int 1], .array [.int 2]]))).run ⟨["rows"]⟩ := by
  have check : rowsBeginWithOne.slots.check = some "forEach" := rfl
  have short : [Value.array [.int 1], .array [.int 2]].length < Nat.pow 2 63 := by decide
  exact ⟨check, short, rfl, forEach_unrolled rowsBeginWithOne check short ⟨["rows"]⟩⟩

end Unrolling

section Items

variable {e : Expectation} {item : Value} {err : CheckError} {items before after : List Value}
  {s : Slots} {fields : Fields}

theorem check_eq_ok_iff : check item e = .ok () ↔ Matches (some item) e := by
  have decided : e.compare (some item) .root = .ok () ↔ Matches (some item) e := compare_eq_ok_iff
  rw [← decided, check]
  cases e.compare (some item) .root with
  | ok u => exact iff_of_true rfl rfl
  | error f =>
    constructor
    · intro failed
      contradiction
    · intro failed
      contradiction

theorem exists_failure_of_check (failed : check item e = .error err) :
    ∃ location, FirstFailure Ends (some item) e .root ⟨location, err⟩ := by
  rw [check] at failed
  cases outcome : e.compare (some item) .root with
  | ok u =>
    rw [outcome] at failed
    contradiction
  | error f =>
    rw [outcome] at failed
    cases failed
    exact ⟨f.location, compare_eq_error_iff.mp outcome⟩

theorem checkData_fixed (nonempty : items ≠ []) (e : Expectation) :
    checkData (some (.array items)) (.fixed e) none = items.forM fun item => check item e := by
  cases items with
  | nil => contradiction
  | cons first rest => rfl

end Items

def forEachItem (fields : Fields) : Expectation :=
  .record { Slots.none with check := some "forEach" } fields

def everyItem (e : Expectation) : Expectation :=
  .record ⟨some "every", some (.predicate (Document.satisfies e)), none, none⟩ []

theorem parseAt_everyItem {path : Path} {v : Value} {e : Expectation}
    (read : Document.parseAt path v = .ok e) :
    Document.parseAt path (.object [("$check", .string "every"), ("$value", v)]) =
      .ok (everyItem e) := by
  have quantified : Document.isQuantified (Record.new.check "every") = true := by decide
  have started : Document.start path [("$check", .string "every"), ("$value", v)] =
      .ok (Record.new.check "every") := rfl
  rw [Document.parseAt, started]
  simp only [bind, Except.bind, Document.parseMembers, quantified, read]
  rfl

section Outcomes

variable {e : Expectation} {fields : Fields} {item : Value} {err : CheckError}
  {items before : List Value}

theorem forEachItem_of_passed (passed : ∀ item ∈ items, check item (.record .none fields) = .ok ())
    (path : Path) : (forEachItem fields).compare (some (.array items)) path = .ok () := by
  have matching : Matches (some (.array items)) (forEachItem fields) :=
    .forEach rfl fun item member => check_eq_ok_iff.mp (passed item member)
  exact matching.compare_eq path

theorem everyItem_of_passed (passed : ∀ item ∈ items, check item e = .ok ()) (path : Path) :
    (everyItem e).compare (some (.array items)) path = .ok () := by
  have satisfied : Quantifier.every.Satisfied (Document.satisfies e) items :=
    fun item member => Document.satisfies_of_ok (passed item member)
  have matching : Matches (some (.array items)) (everyItem e) := .quantified rfl rfl satisfied
  exact matching.compare_eq path

theorem forEachItem_of_first
    (passed : ∀ earlier ∈ before, check earlier (.record .none fields) = .ok ())
    (failed : check item (.record .none fields) = .error err) (after : List Value) (path : Path) :
    ∃ f, (forEachItem fields).compare (some (.array (before ++ item :: after))) path = .error f ∧
      f.error.kind = err.kind := by
  obtain ⟨location, first⟩ := exists_failure_of_check failed
  obtain ⟨f, below, same⟩ := first.relocate (path.push (toString before.length))
  have matching : ∀ earlier ∈ before, Matches (some earlier) (.record .none fields) :=
    fun earlier member => check_eq_ok_iff.mp (passed earlier member)
  exact ⟨f, (FirstFailure.item rfl matching below).compare_eq, same.cause.kind.symm⟩

theorem everyItem_of_first (passed : ∀ earlier ∈ before, check earlier e = .ok ())
    (failed : check item e = .error err) (after : List Value) (path : Path) :
    (everyItem e).compare (some (.array (before ++ item :: after))) path =
      .error ⟨path, if err.kind = .configuration then err
        else .assertion path ("Incorrect \"" ++ path.text ++ "\".")⟩ := by
  have earlier : ∀ earlier ∈ before, Document.satisfies e earlier = .ok true :=
    fun earlier member => Document.satisfies_of_ok (passed earlier member)
  have answer := Document.satisfies_of_error failed
  by_cases mistake : err.kind = .configuration
  · rw [if_pos mistake] at answer ⊢
    have fault : PredicateFault (some (.array (before ++ item :: after))) (everyItem e) path err :=
      .aborted (q := .every) rfl rfl ⟨before, item, after, rfl, earlier, answer⟩
    exact fault.compare_eq
  · rw [if_neg mistake] at answer ⊢
    have differs : Differs (.array (before ++ item :: after)) (everyItem e) :=
      .quantified (q := .every) rfl rfl ⟨before, item, after, rfl, earlier, answer⟩
    exact differs.compare_eq path

end Outcomes

/-- The three ways to iterate agree. An object without reserved keys accepts the same non-empty
arrays as the template of an array, with `forEach` among its members, and as the `$value` of
`every`. Where they fail, `forEach` fails for the same kind of reason as the input does, and `every`
passes on a mistake in the template and otherwise says that the array is incorrect. -/
theorem iterations_agree {before after : Members} {x : Expectation} {items : List Value}
    (free : ∀ member ∈ before ++ after, member.1 ∉ reservedNames)
    (accepted : Document.parse (.object (before ++ after)) = .ok x) (nonempty : items ≠ [])
    (path : Path) :
    ∃ each every,
      Document.parse (.object (before ++ ("$check", .string "forEach") :: after)) = .ok each ∧
      Document.parse (.object [("$check", .string "every"),
        ("$value", .object (before ++ after))]) = .ok every ∧
      (checkData (some (.array items)) (.fixed x) none = .ok () ↔
        each.compare (some (.array items)) path = .ok ()) ∧
      (each.compare (some (.array items)) path = .ok () ↔
        every.compare (some (.array items)) path = .ok ()) ∧
      ∀ err, checkData (some (.array items)) (.fixed x) none = .error err →
        (∃ f, each.compare (some (.array items)) path = .error f ∧ f.error.kind = err.kind) ∧
        every.compare (some (.array items)) path =
          .error ⟨path, if err.kind = .configuration then err
            else .assertion path ("Incorrect \"" ++ path.text ++ "\".")⟩ := by
  obtain ⟨fields, parsed, rfl⟩ := Document.parseAt_of_free free accepted
  refine ⟨forEachItem fields, everyItem (.record .none fields),
    Document.parseAt_with_check free parsed, parseAt_everyItem accepted, ?_⟩
  rw [checkData_fixed nonempty]
  -- One pass over the items, each against the fields alone, decides all three.
  cases checked : items.forM fun item => check item (.record .none fields) with
  | ok u =>
    have passed : ∀ item ∈ items, check item (.record .none fields) = .ok () :=
      forM_eq_ok_iff.mp checked
    rw [forEachItem_of_passed passed, everyItem_of_passed passed]
    exact ⟨iff_of_true rfl rfl, Iff.rfl, nofun⟩
  | error err =>
    obtain ⟨firsts, item, lasts, rfl, passed, failed⟩ := exists_first_of_forM_eq_error checked
    obtain ⟨f, each, same⟩ := forEachItem_of_first passed failed lasts path
    have every := everyItem_of_first passed failed lasts path
    rw [each, every]
    refine ⟨iff_of_false nofun nofun, iff_of_false nofun nofun, ?_⟩
    intro err' same'
    cases same'
    exact ⟨⟨f, rfl, same⟩, rfl⟩

def countMember : Members :=
  [("n", .object [("$check", .string ">"), ("$value", .int 0)])]

def flagMember : Members := [("ok", .bool true)]

def countedFlags : Expectation :=
  .record .none [("n", .record ⟨some ">", some (.value (.int 0)), none, none⟩ []),
    ("ok", .literal (.bool true))]

def counts : List Value :=
  [.object [("n", .int 1), ("ok", .bool true)], .object [("ok", .bool false), ("n", .int 2)]]

theorem iterations_agree_counts :
    (∀ member ∈ countMember ++ flagMember, member.1 ∉ reservedNames) ∧
      Document.parse (.object (countMember ++ flagMember)) = .ok countedFlags ∧ counts ≠ [] ∧
      checkData (some (.array counts)) (.fixed countedFlags) none =
        .error ⟨.assertion, "ok", "Incorrect \"ok\"."⟩ ∧
      ∃ each every,
        Document.parse (.object (countMember ++ ("$check", .string "forEach") :: flagMember)) =
          .ok each ∧
        Document.parse (.object [("$check", .string "every"),
          ("$value", .object (countMember ++ flagMember))]) = .ok every ∧
        (∃ f, each.compare (some (.array counts)) ⟨["list"]⟩ = .error f ∧
          f.error.kind = .assertion) ∧
        every.compare (some (.array counts)) ⟨["list"]⟩ =
          .error ⟨⟨["list"]⟩, .assertion ⟨["list"]⟩ "Incorrect \"list\"."⟩ := by
  have free : ∀ member ∈ countMember ++ flagMember, member.1 ∉ reservedNames := by decide
  have accepted : Document.parse (.object (countMember ++ flagMember)) = .ok countedFlags := rfl
  have nonempty : counts ≠ [] := nofun
  have failed : checkData (some (.array counts)) (.fixed countedFlags) none =
      .error ⟨.assertion, "ok", "Incorrect \"ok\"."⟩ := rfl
  obtain ⟨each, every, readEach, readEvery, _, _, errors⟩ :=
    iterations_agree free accepted nonempty ⟨["list"]⟩
  obtain ⟨below, whole⟩ := errors _ failed
  exact ⟨free, accepted, nonempty, failed, each, every, readEach, readEvery, below, whole⟩

end DataMatch
