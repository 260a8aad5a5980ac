import DataMatch.Proofs.Members
import DataMatch.Value.Lookup

/-! Following the segments of a path through a value. Unlike a field name, a segment is one step for
each container it meets: a field of an object, which may be dotted, or a signed position of an
array. -/
namespace DataMatch

namespace Value

/-- The part of a value that a segment of a path leads to: a field of an object by its name, an item
of an array by its position. -/
def part? (v : Value) (segment : String) : Option Value :=
  match v with
  | .object members => (Value.object members).field? segment
  | .array items => (parseIndex segment).bind (resolveIndex items)
  | _ => none

def reach? (v : Value) : List String → Option Value
  | [] => some v
  | segment :: rest => (v.part? segment).bind (reach? · rest)

/-- Every array in the value has fewer than `2 ^ 63` items, as memory allows no more. -/
inductive Addressable : Value → Prop
  | primitive {v : Value} (h : v.isContainer = false) : Addressable v
  | array {items : List Value} (short : items.length < Nat.pow 2 63)
      (each : ∀ item ∈ items, Addressable item) : Addressable (.array items)
  | object {members : Members} (each : ∀ member ∈ members, Addressable member.2) :
      Addressable (.object members)

end Value

section Addressable

variable {v w : Value} {segment : String}

theorem Value.Addressable.item {items : List Value} (h : (Value.array items).Addressable)
    {item : Value} (member : item ∈ items) : item.Addressable := by
  cases h with
  | primitive h => contradiction
  | array short each => exact each item member

theorem Value.Addressable.length_lt {items : List Value} (h : (Value.array items).Addressable) :
    items.length < Nat.pow 2 63 := by
  cases h with
  | primitive h => contradiction
  | array short each => exact short

theorem Value.Addressable.member {members : Members} (h : (Value.object members).Addressable)
    (found : members.lookup segment = some w) : w.Addressable := by
  cases h with
  | primitive h => contradiction
  | object each => exact each _ (mem_of_lookup found)

theorem Value.Addressable.step (h : v.Addressable) (found : v.step? segment = some w) :
    w.Addressable := by
  cases v with
  | object members => exact h.member found
  | array items =>
    obtain ⟨position, _, found⟩ := Option.bind_eq_some_iff.mp found
    exact h.item (List.mem_of_getElem? found)
  | _ => contradiction

theorem Value.Addressable.walk {segments : List String} (h : v.Addressable)
    (found : v.walk? segments = some w) : w.Addressable := by
  induction segments generalizing v with
  | nil =>
    cases found
    exact h
  | cons segment rest ih =>
    obtain ⟨next, step, found⟩ := Option.bind_eq_some_iff.mp found
    exact ih (h.step step) found

theorem Value.Addressable.field {members : Members} (h : (Value.object members).Addressable)
    (found : (Value.object members).field? segment = some w) : w.Addressable := by
  unfold Value.field? at found
  split at found
  · rename_i direct
    cases found
    exact h.member direct
  · exact h.walk found

theorem mem_of_resolveIndex {items : List Value} {index : Int} {item : Value}
    (found : resolveIndex items index = some item) : item ∈ items := by
  unfold resolveIndex at found
  split at found
  · exact List.mem_of_getElem? found
  · split at found
    · exact List.mem_of_getElem? found
    · contradiction

theorem Value.Addressable.part (h : v.Addressable) (found : v.part? segment = some w) :
    w.Addressable := by
  cases v with
  | object members => exact h.field found
  | array items =>
    obtain ⟨index, _, found⟩ := Option.bind_eq_some_iff.mp found
    exact h.item (mem_of_resolveIndex found)
  | _ => contradiction

end Addressable

end DataMatch
