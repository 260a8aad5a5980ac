import Mathlib.Data.List.Forall2
import DataMatch.Proofs.Members
import DataMatch.Value.Lookup

/-! Data that grows beside what is named: members are added under other keys, and members change
places. Under the keys that are named, the parts of the value and of the grown value correspond. -/
namespace DataMatch

/-- The second value comes from the first by inserting members under keys that are not among the
named ones, and by reordering members, in any objects at any depth. -/
inductive Grown (named : List String) : Value → Value → Prop
  | same {v : Value} : Grown named v v
  | trans {u v w : Value} (first : Grown named u v) (second : Grown named v w) : Grown named u w
  | insert {before after : Members} {key : String} {v : Value} (other : key ∉ named) :
      Grown named (.object (before ++ after)) (.object (before ++ (key, v) :: after))
  | reorder {members members' : Members} (distinct : (members.map (·.1)).Nodup)
      (perm : members.Perm members') : Grown named (.object members) (.object members')
  | member {before after : Members} {key : String} {v w : Value} (inner : Grown named v w) :
      Grown named (.object (before ++ (key, v) :: after)) (.object (before ++ (key, w) :: after))
  | item {before after : List Value} {v w : Value} (inner : Grown named v w) :
      Grown named (.array (before ++ v :: after)) (.array (before ++ w :: after))

abbrev FoundGrown (named : List String) : Option Value → Option Value → Prop :=
  Option.Rel (Grown named)

/-- What a value and the grown value have in common: the shape, the items of arrays one by one, and
in objects the members under the named keys. -/
inductive Grown.View (named : List String) : Value → Value → Prop
  | primitive {v : Value} (h : v.isContainer = false) : View named v v
  | object {members members' : Members}
      (each : ∀ key ∈ named, FoundGrown named (members.lookup key) (members'.lookup key)) :
      View named (.object members) (.object members')
  | array {items items' : List Value} (each : List.Forall₂ (Grown named) items items') :
      View named (.array items) (.array items')

section Found

variable {named : List String} {x y z : Option Value} {xs ys zs : List Value}

theorem FoundGrown.same : FoundGrown named x x := by
  cases x with
  | none => exact .none
  | some v => exact .some .same

theorem FoundGrown.trans (first : FoundGrown named x y) (second : FoundGrown named y z) :
    FoundGrown named x z := by
  cases first with
  | none => exact second
  | some first =>
    cases second with
    | some second => exact .some (first.trans second)

theorem FoundGrown.bind {f g : Value → Option Value} (found : FoundGrown named x y)
    (next : ∀ v w, Grown named v w → FoundGrown named (f v) (g w)) :
    FoundGrown named (x.bind f) (y.bind g) := by
  cases found with
  | none => exact .none
  | some grown => exact next _ _ grown

theorem items_trans (first : List.Forall₂ (Grown named) xs ys)
    (second : List.Forall₂ (Grown named) ys zs) : List.Forall₂ (Grown named) xs zs := by
  induction first generalizing zs with
  | nil => exact second
  | cons head tail ih =>
    cases second with
    | cons head' tail' => exact .cons (head.trans head') (ih tail')

theorem items_getElem? (each : List.Forall₂ (Grown named) xs ys) (i : Nat) :
    FoundGrown named xs[i]? ys[i]? := by
  induction each generalizing i with
  | nil => exact .none
  | cons head tail ih =>
    cases i with
    | zero => exact .some head
    | succ i => simpa using ih i

theorem items_resolveIndex (each : List.Forall₂ (Grown named) xs ys) (index : Int) :
    FoundGrown named (resolveIndex xs index) (resolveIndex ys index) := by
  have length := each.length_eq
  unfold resolveIndex
  rw [length]
  split
  · exact items_getElem? each _
  · split
    · exact items_getElem? each _
    · exact .none

end Found

variable {named : List String} {v w : Value}

theorem Grown.View.same : Grown.View named v v := by
  cases v with
  | object members => exact .object fun key _ => FoundGrown.same
  | array items => exact .array (List.forall₂_same.mpr fun item _ => .same)
  | _ => exact .primitive rfl

theorem Grown.View.trans {u : Value} (first : Grown.View named u v)
    (second : Grown.View named v w) : Grown.View named u w := by
  cases first with
  | primitive h => exact second
  | object each =>
    cases second with
    | primitive h => contradiction
    | object each' => exact .object fun key member => (each key member).trans (each' key member)
  | array each =>
    cases second with
    | primitive h => contradiction
    | array each' => exact .array (items_trans each each')

theorem Grown.view (h : Grown named v w) : Grown.View named v w := by
  induction h with
  | same => exact .same
  | trans first second ih ih' => exact ih.trans ih'
  | @insert before after key v other =>
    refine .object fun name member => ?_
    have different : name ≠ key := by
      rintro rfl
      exact other member
    rw [lookup_insert_other different]
    exact .same
  | reorder distinct perm =>
    refine .object fun name _ => ?_
    rw [lookup_perm distinct perm]
    exact .same
  | @member before after key v w inner ih =>
    refine .object fun name _ => ?_
    rw [List.lookup_append, List.lookup_append, List.lookup_cons, List.lookup_cons]
    cases before.lookup name with
    | some found => exact .same
    | none =>
      cases name == key with
      | true => exact .some inner
      | false => exact .same
  | @item before after v w inner ih =>
    have unchanged : ∀ items, List.Forall₂ (Grown named) items items :=
      fun items => List.forall₂_same.mpr fun item _ => .same
    exact .array (List.rel_append (unchanged before) (.cons inner (unchanged after)))

section Lookup

variable {segment name : String} {segments : List String}

theorem Grown.step? (h : Grown named v w) (member : segment ∈ named) :
    FoundGrown named (v.step? segment) (w.step? segment) := by
  cases h.view with
  | primitive h => exact .same
  | object each => exact each segment member
  | array each =>
    change FoundGrown named ((positionOf? segment).bind _) ((positionOf? segment).bind _)
    cases positionOf? segment with
    | none => exact .none
    | some position => exact items_getElem? each position

theorem Grown.walk? (h : Grown named v w) (members : ∀ segment ∈ segments, segment ∈ named) :
    FoundGrown named (v.walk? segments) (w.walk? segments) := by
  induction segments generalizing v w with
  | nil => exact .some h
  | cons segment rest ih =>
    obtain ⟨member, members⟩ := List.forall_mem_cons.mp members
    exact (h.step? member).bind fun _ _ grown => ih grown members

theorem Grown.field? (h : Grown named v w) (member : name ∈ named)
    (members : ∀ segment ∈ Value.splitName name, segment ∈ named) :
    FoundGrown named (v.field? name) (w.field? name) := by
  have direct : FoundGrown named (v.get? name) (w.get? name) := by
    cases h.view with
    | primitive h => exact .same
    | object each => exact each name member
    | array each => exact .none
  unfold Value.field?
  generalize v.get? name = x at direct ⊢
  generalize w.get? name = y at direct ⊢
  cases direct with
  | none => exact h.walk? members
  | some grown => exact .some grown

end Lookup

end DataMatch
