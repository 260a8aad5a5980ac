import DataMatch.Proofs.Location

/-! How far down a comparison goes. Each record on the way adds the name of one of its fields to the
path, and before it a position if the record is for every item. So the expectation alone bounds the
path, however deep the data are. -/
namespace DataMatch

namespace Expectation

mutual

def depth (e : Expectation) : Nat :=
  match e with
  | literal _ => 0
  | record _ fields => fieldsDepth fields + 1
termination_by structural e

def fieldsDepth (fields : List (String × Expectation)) : Nat :=
  match fields with
  | [] => 0
  | (_, e) :: rest => max (depth e) (fieldsDepth rest)
termination_by structural fields

end

/-- Segments that lead down an expectation: the name of a field of a record without slots, or, where
`$check` is `forEach`, a position, below which the record has no slots any more. -/
inductive Descends : Expectation → List String → Prop
  | here {e : Expectation} : Descends e []
  | field {fields : Fields} {name : String} {child : Expectation} {rest : List String}
      (member : (name, child) ∈ fields) (below : Descends child rest) :
      Descends (.record .none fields) (name :: rest)
  | item {s : Slots} {fields : Fields} {position : Nat} {rest : List String}
      (kind : s.kind? = some .forEach) (below : Descends (.record .none fields) rest) :
      Descends (.record s fields) (toString position :: rest)

section Descends

variable {e child : Expectation} {fields : Fields} {name : String} {segments : List String}

theorem depth_le_fieldsDepth (member : (name, child) ∈ fields) :
    child.depth ≤ fieldsDepth fields := by
  induction fields with
  | nil => contradiction
  | cons field rest ih =>
    rw [fieldsDepth]
    rcases List.mem_cons.mp member with first | later
    · rw [← first]
      exact Nat.le_max_left _ _
    · exact Nat.le_trans (ih later) (Nat.le_max_right _ _)

/-- A record adds at most a position and a name: below the position no slot is left that could ask
for another one. -/
theorem Descends.length_le (h : e.Descends segments) : segments.length ≤ 2 * e.depth := by
  -- A position is followed by a name at most: below it no slot can ask for another position.
  induction e generalizing segments with
  | literal v =>
    cases h
    exact Nat.zero_le _
  | record s fields ih =>
    have inner {name : String} {child : Expectation} {rest : List String}
        (member : (name, child) ∈ fields) (below : child.Descends rest) :
        rest.length ≤ 2 * fieldsDepth fields :=
      Nat.le_trans (ih _ member below) (Nat.mul_le_mul_left 2 (depth_le_fieldsDepth member))
    rw [depth, Nat.mul_succ]
    cases h with
    | here => exact Nat.zero_le _
    | field member below => exact Nat.le_succ_of_le (Nat.succ_le_succ (inner member below))
    | item kind below =>
      cases below with
      | here => exact Nat.le_succ_of_le (Nat.succ_le_succ (Nat.zero_le _))
      | field member below => exact Nat.succ_le_succ (Nat.succ_le_succ (inner member below))
      | item again => contradiction

end Descends

end Expectation

theorem FirstFailure.descends {fault : Option Value → Expectation → Path → CheckError → Prop}
    {actual : Option Value} {e : Expectation} {path : Path} {f : Failure}
    (h : FirstFailure fault actual e path f) :
    ∃ segments, f.location.segments = path.segments ++ segments ∧ e.Descends segments := by
  induction h with
  | here h => exact ⟨[], (List.append_nil _).symm, .here⟩
  | @field members before after name child path f passed below ih =>
    obtain ⟨segments, location, descends⟩ := ih
    refine ⟨name :: segments, ?_, .field (by simp) descends⟩
    rw [location, Path.segments_push, List.append_assoc, List.singleton_append]
  | @position items before after key child path f integers passed below ih =>
    obtain ⟨segments, location, descends⟩ := ih
    refine ⟨key :: segments, ?_, .field (by simp) descends⟩
    rw [location, Path.segments_push, List.append_assoc, List.singleton_append]
  | @item before after item s fields path f kind passed below ih =>
    obtain ⟨segments, location, descends⟩ := ih
    refine ⟨toString before.length :: segments, ?_, .item kind descends⟩
    rw [location, Path.segments_push, List.append_assoc, List.singleton_append]

theorem demand_none_ne_forEach (names : List String) (v : Value) (items : List Value) :
    Slots.none.demand names v ≠ .ok (.forEach items) := by
  rw [demand_none]
  intro asked
  obtain ⟨find, _, other⟩ := map_eq_ok asked
  contradiction

/-- The template bounds the walk. Beyond the path it began at, a failed comparison leaves at most
two segments for each record that is nested in the expectation, and these lead down the expectation.
`forEach` is for one level of arrays: each item is compared with the record without its slots, and
such a record is for the items of no array. -/
theorem walk_bounded_by_depth (actual : Option Value) (e : Expectation) (path : Path) :
    (∀ err after, (e.walk actual).run path = .error err after →
        ∃ segments, after.segments = path.segments ++ segments ∧ e.Descends segments ∧
          segments.length ≤ 2 * e.depth) ∧
      (∀ s fields items, s.kind? = some .forEach →
        (Expectation.record s fields).compare (some (.array items)) path =
          items.zipIdx.forM fun item => (Expectation.record .none fields).compare (some item.1)
            (path.push (toString item.2))) ∧
      ∀ names v items, Slots.none.demand names v ≠ .ok (.forEach items) := by
  refine ⟨fun err after failed => ?_, fun s fields items kind => ?_, demand_none_ne_forEach⟩
  · have first := compare_eq_error_iff.mp (run_eq_error_iff.mp failed)
    obtain ⟨segments, location, descends⟩ := first.descends
    exact ⟨segments, location, descends, descends.length_le⟩
  · exact compare_forEach kind fields items path

def endsWithOne : Expectation :=
  .record { Slots.none with check := some "forEach" }
    [("0", .record { Slots.none with check := some "forEach" } [("-1", .literal (.int 1))])]

def sevenfold : Value := .array [.array [.array [.array [.array [.array [.array [.int 1]]]]]]]

theorem walk_bounded_by_depth_sevenfold :
    (endsWithOne.walk (some sevenfold)).run ⟨["rows"]⟩ =
        .error (.misuse ⟨["rows", "0", "0", "0", "-1"]⟩ .literalOnArray)
          ⟨["rows", "0", "0", "0", "-1"]⟩ ∧
      endsWithOne.depth = 2 ∧
      ∃ segments, ["rows", "0", "0", "0", "-1"] = ["rows"] ++ segments ∧
        endsWithOne.Descends segments ∧ segments.length ≤ 4 := by
  have failed : (endsWithOne.walk (some sevenfold)).run ⟨["rows"]⟩ =
      .error (.misuse ⟨["rows", "0", "0", "0", "-1"]⟩ .literalOnArray)
        ⟨["rows", "0", "0", "0", "-1"]⟩ := rfl
  obtain ⟨bounded, _⟩ := walk_bounded_by_depth (some sevenfold) endsWithOne ⟨["rows"]⟩
  exact ⟨failed, rfl, bounded _ _ failed⟩

end DataMatch
