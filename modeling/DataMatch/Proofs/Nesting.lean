import DataMatch.Proofs.Relocation

/-! Dotted field names. A name with points stands for records inside one another, one for each
segment: both lead to the same part of the value, and a failure there shows the same path. -/
namespace DataMatch

def nested (segments : List String) (e : Expectation) : Expectation :=
  segments.foldr (fun segment inner => .record .none [(segment, inner)]) e

section Segments

variable {segments : List String}

theorem splitName_join (dotFree : ∀ segment ∈ segments, '.' ∉ segment.toList)
    (nonempty : segments ≠ []) : Value.splitName (".".intercalate segments) = segments := by
  have joined : (".".intercalate segments).toList =
      ['.'].intercalate (segments.map String.toList) := String.toList_intercalate
  have split : (['.'].intercalate (segments.map String.toList)).splitOn '.' =
      segments.map String.toList := by
    apply List.splitOn_intercalate
    · simpa using dotFree
    · simpa using nonempty
  rw [Value.splitName, joined, split, List.map_map]
  simp [Function.comp_def]

theorem not_mem_splitOn {c : Char} {cs part : List Char} (member : part ∈ cs.splitOn c) :
    c ∉ part := by
  induction cs generalizing part with
  | nil =>
    obtain rfl : part = [] := by simpa using member
    exact List.not_mem_nil
  | cons d cs ih =>
    rw [List.splitOn_cons_eq_if_modifyHead] at member
    split at member
    · rcases List.mem_cons.mp member with rfl | member
      · exact List.not_mem_nil
      · exact ih member
    · rename_i different
      cases parts : cs.splitOn c with
      | nil => exact absurd parts (List.splitOn_ne_nil c cs)
      | cons head tail =>
        rw [parts, List.modifyHead_cons] at member
        rcases List.mem_cons.mp member with rfl | member
        · have apart : c ≠ d := fun same => different (beq_iff_eq.mpr same.symm)
          have inner : head ∈ cs.splitOn c := parts ▸ List.mem_cons_self
          exact List.not_mem_cons_of_ne_of_not_mem apart (ih inner)
        · exact ih (parts ▸ List.mem_cons_of_mem _ member)

theorem splitName_ne_nil (name : String) : Value.splitName name ≠ [] := by
  simp [Value.splitName, List.splitOn_ne_nil]

theorem splitName_dotFree (name : String) :
    ∀ segment ∈ Value.splitName name, '.' ∉ segment.toList := by
  intro segment member
  obtain ⟨part, inside, rfl⟩ := List.mem_map.mp member
  rw [String.toList_ofList]
  exact not_mem_splitOn inside

theorem join_splitName (name : String) : ".".intercalate (Value.splitName name) = name := by
  apply String.toList_injective
  rw [String.toList_intercalate, Value.splitName, List.map_map]
  have same : String.toList ∘ String.ofList = id := by
    funext cs
    exact String.toList_ofList
  rw [same, List.map_id]
  exact List.intercalate_splitOn '.'

theorem text_push_join (nonempty : segments ≠ []) (path : Path) :
    (path.push (".".intercalate segments)).text = Path.text ⟨path.segments ++ segments⟩ := by
  by_cases root : path.segments = []
  · simp [Path.text, root]
  · have left := String.intercalate_append_of_ne_nil (s := ".") root nonempty
    have right := String.intercalate_append_of_ne_nil (s := ".") (m := [".".intercalate segments])
      root (by simp)
    simp [Path.text, left, right]

end Segments

section Walks

variable {v w : Value} {segment name : String} {segments : List String} {e : Expectation}

theorem Value.part?_of_step? (addressable : v.Addressable) (found : v.step? segment = some w) :
    v.part? segment = some w := by
  cases v with
  | object members =>
    have direct : (Value.object members).get? segment = some w := found
    simp [Value.part?, Value.field?, direct]
  | array items =>
    -- A dotted name reads natural numbers and a field name integers; as positions they agree.
    obtain ⟨i, read, item⟩ := Option.bind_eq_some_iff.mp found
    have short := addressable.length_lt
    obtain ⟨inside, _⟩ := List.getElem?_eq_some_iff.mp item
    have index := parseIndex_of_positionOf? (by omega) read
    simp [Value.part?, index, resolveIndex, item]
  | _ => contradiction

theorem Value.reach?_of_walk? (addressable : v.Addressable) (found : v.walk? segments = some w) :
    v.reach? segments = some w := by
  induction segments generalizing v with
  | nil => exact found
  | cons segment rest ih =>
    obtain ⟨next, step, found⟩ := Option.bind_eq_some_iff.mp found
    rw [Value.reach?, Value.part?_of_step? addressable step]
    exact ih (addressable.step step) found

theorem compare_single (found : v.part? name = some w) (path : Path) :
    (Expectation.record .none [(name, e)]).compare (some v) path =
      e.compare (some w) (path.push name) := by
  have single : ∀ step : String × Expectation → Outcome, [(name, e)].forM step = step (name, e) := by
    intro step
    rw [forM_cons]
    cases step (name, e) <;> rfl
  cases v with
  | object members =>
    have leads : (Value.object members).field? name = some w := found
    rw [compare_object, single, leads]
  | array items =>
    have leads : (parseIndex name).bind (resolveIndex items) = some w := found
    obtain ⟨index, parsed, _⟩ := Option.bind_eq_some_iff.mp leads
    rw [compare_positions (by simp [parsed]), single, leads]
  | _ => contradiction

theorem compare_nested (reached : v.reach? segments = some w) (path : Path) :
    (nested segments e).compare (some v) path =
      e.compare (some w) ⟨path.segments ++ segments⟩ := by
  -- On the segments: each record around the expectation takes one step into the value.
  induction segments generalizing v path with
  | nil =>
    cases reached
    simp [nested]
  | cons segment rest ih =>
    obtain ⟨next, step, reached⟩ := Option.bind_eq_some_iff.mp reached
    have inner := ih reached (path.push segment)
    rw [nested, List.foldr_cons, compare_single step]
    simpa [nested] using inner

end Walks

/-- Two failures read alike: they are of one kind and show one path, and only what a mistake in the
expectation says may differ. -/
structure Failure.ReadsLike (f g : Failure) : Prop where
  kind : f.error.kind = g.error.kind
  path : f.error.path = g.error.path
  location : f.location.text = g.location.text
  message : f.error.kind ≠ .configuration → f.error.message = g.error.message

def Alike : Outcome → Outcome → Prop
  | .ok (), .ok () => True
  | .error f, .error g => f.ReadsLike g
  | _, _ => False

section Rendering

variable {path other : Path} {err err' : CheckError} {f g : Failure}

theorem SameCause.path_eq (h : SameCause path other err err') (same : path.text = other.text) :
    err.path = err'.path := by
  cases h <;> first | exact same | rfl

theorem SameCause.message_eq (h : SameCause path other err err') (same : path.text = other.text)
    (fits : err.kind ≠ .configuration) : err.message = err'.message := by
  have shown : toString path = toString other := same
  cases h with
  | missing => simp [CheckError.missing, shown]
  | misuse m => exact absurd rfl fits
  | incorrect => simp [CheckError.assertion, shown]
  | worded message => rfl
  | passedOn err => rfl

theorem text_append (same : path.text = other.text) (segments : List String)
    (left : path.segments ≠ []) (right : other.segments ≠ []) :
    Path.text ⟨path.segments ++ segments⟩ = Path.text ⟨other.segments ++ segments⟩ := by
  by_cases here : segments = []
  · simpa [here] using same
  · have shown : ".".intercalate path.segments = ".".intercalate other.segments := same
    simp [Path.text, String.intercalate_append_of_ne_nil left here,
      String.intercalate_append_of_ne_nil right here, shown]

theorem Failure.Moved.readsLike (h : f.Moved path other g) (same : path.text = other.text)
    (left : path.segments ≠ []) (right : other.segments ≠ []) : f.ReadsLike g := by
  obtain ⟨⟨segments, location, location'⟩, cause⟩ := h
  have place : f.location.text = g.location.text := by
    have shown := text_append same segments left right
    rwa [← location, ← location'] at shown
  exact ⟨cause.kind, cause.path_eq place, place, cause.message_eq place⟩

theorem compare_alike (e : Expectation) (actual : Option Value) (same : path.text = other.text)
    (left : path.segments ≠ []) (right : other.segments ≠ []) :
    Alike (e.compare actual path) (e.compare actual other) := by
  have moved := compare_relocate e actual path other
  cases outcome : e.compare actual path with
  | ok u =>
    rw [outcome] at moved
    rw [moved]
    trivial
  | error f =>
    rw [outcome] at moved
    obtain ⟨g, outcome', moved⟩ := moved
    rw [outcome']
    exact moved.readsLike same left right

end Rendering

/-- A dotted field is sugar for nesting. Where no member has the dotted name itself and the name
leads to a part of the object, through whatever objects and arrays, the field and the records inside
one another come to the same. -/
theorem dotted_field_nests {members : Members} {segments : List String}
    (addressable : (Value.object members).Addressable) (several : 2 ≤ segments.length)
    (dotFree : ∀ segment ∈ segments, '.' ∉ segment.toList)
    (other : members.lookup (".".intercalate segments) = none)
    (resolves : ((Value.object members).field? (".".intercalate segments)).isSome = true)
    (e : Expectation) (path : Path) :
    Alike
      ((Expectation.record .none [(".".intercalate segments, e)]).compare
        (some (.object members)) path)
      ((nested segments e).compare (some (.object members)) path) := by
  have nonempty : segments ≠ [] := List.ne_nil_of_length_pos (by omega)
  obtain ⟨w, found⟩ := Option.isSome_iff_exists.mp resolves
  have walked : (Value.object members).walk? segments = some w := by
    have direct : (Value.object members).get? (".".intercalate segments) = none := other
    rwa [Value.field?, direct, splitName_join dotFree nonempty] at found
  have leads : (Value.object members).part? (".".intercalate segments) = some w := found
  rw [compare_single leads, compare_nested (Value.reach?_of_walk? addressable walked)]
  exact compare_alike e (some w) (text_push_join nonempty path) (by simp) (by simp [nonempty])

def cellRows : Members :=
  [("table", .object [("rows", .array [.null, .object [("cells", .array [.int 7])]])])]

def cellSegments : List String := ["table", "rows", "+1", "cells", "0"]

theorem dotted_field_nests_cells :
    (Value.object cellRows).Addressable ∧ 2 ≤ cellSegments.length ∧
      (∀ segment ∈ cellSegments, '.' ∉ segment.toList) ∧
      cellRows.lookup (".".intercalate cellSegments) = none ∧
      ((Value.object cellRows).field? (".".intercalate cellSegments)).isSome = true ∧
      (Expectation.record .none [("table.rows.+1.cells.0", .literal .null)]).compare
          (some (.object cellRows)) .root =
        .error ⟨⟨["table.rows.+1.cells.0"]⟩,
          ⟨.assertion, "table.rows.+1.cells.0", "Incorrect \"table.rows.+1.cells.0\"."⟩⟩ ∧
      Alike
        ((Expectation.record .none [("table.rows.+1.cells.0", .literal .null)]).compare
          (some (.object cellRows)) .root)
        ((nested cellSegments (.literal .null)).compare (some (.object cellRows)) .root) := by
  have cells : (Value.array [.int 7]).Addressable :=
    .array (show 1 < Nat.pow 2 63 by decide) (by simpa using .primitive rfl)
  have row : (Value.object [("cells", .array [.int 7])]).Addressable :=
    .object (by simpa using cells)
  have rows : (Value.array [.null, .object [("cells", .array [.int 7])]]).Addressable :=
    .array (show 2 < Nat.pow 2 63 by decide) (by simpa using ⟨.primitive rfl, row⟩)
  have addressable : (Value.object cellRows).Addressable := by
    refine .object (List.forall_mem_singleton.mpr (.object (List.forall_mem_singleton.mpr rows)))
  have several : 2 ≤ cellSegments.length := by decide
  have dotFree : ∀ segment ∈ cellSegments, '.' ∉ segment.toList := by decide
  have other : cellRows.lookup (".".intercalate cellSegments) = none := by decide
  have resolves :
      ((Value.object cellRows).field? (".".intercalate cellSegments)).isSome = true := rfl
  exact ⟨addressable, several, dotFree, other, resolves, rfl,
    dotted_field_nests addressable several dotFree other resolves (.literal .null) .root⟩

end DataMatch
