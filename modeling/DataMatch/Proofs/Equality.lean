import Mathlib.Data.List.Forall2
import Mathlib.Data.List.Perm.Subperm
import DataMatch.Proofs.Members
import DataMatch.Proofs.Ordering

/-! Loose and strict equality. Both agree on containers part by part and differ in how they compare
primitives, so each law is shown of structural agreement once, for any comparison of primitives that
has it. The order of the members of an object has no influence. -/
namespace DataMatch

namespace Value

section Agreement

variable {leaf leaf' : Value → Value → Bool} {v w : Value}

/-- What agreement says of two values. The members of the objects are compared by their keys, in one
direction only. -/
inductive Agreement (leaf : Value → Value → Bool) : Value → Value → Prop
  | primitive {v w : Value} (left : v.isContainer = false) (right : w.isContainer = false)
      (same : leaf v w = true) : Agreement leaf v w
  | array {xs ys : List Value} (each : List.Forall₂ (fun x y => agree leaf x y = true) xs ys) :
      Agreement leaf (.array xs) (.array ys)
  | object {ms ns : Members} (size : ms.length = ns.length)
      (each : ∀ member ∈ ms, ∃ y, ns.lookup member.1 = some y ∧ agree leaf member.2 y = true) :
      Agreement leaf (.object ms) (.object ns)

theorem agreeItems_iff {xs ys : List Value} :
    agreeItems leaf xs ys = true ↔ List.Forall₂ (fun x y => agree leaf x y = true) xs ys := by
  induction xs generalizing ys with
  | nil => cases ys <;> simp [agreeItems]
  | cons x xs ih => cases ys <;> simp [agreeItems, ih]

theorem agreeMembers_iff {ms ns : Members} :
    agreeMembers leaf ms ns = true ↔
      ∀ member ∈ ms, ∃ y, ns.lookup member.1 = some y ∧ agree leaf member.2 y = true := by
  induction ms with
  | nil => simp [agreeMembers]
  | cons member rest ih =>
    obtain ⟨key, x⟩ := member
    rw [agreeMembers, Bool.and_eq_true, List.forall_mem_cons, ih]
    cases ns.lookup key <;> simp

theorem agree_iff : agree leaf v w = true ↔ Agreement leaf v w := by
  constructor
  · intro agrees
    cases v with
    | array xs =>
      cases w with
      | array ys => exact .array (agreeItems_iff.mp agrees)
      | _ => contradiction
    | object ms =>
      cases w with
      | object ns =>
        obtain ⟨size, each⟩ := Bool.and_eq_true_iff.mp agrees
        exact .object (by simpa using size) (agreeMembers_iff.mp each)
      | _ => contradiction
    | _ =>
      rw [agree_primitive rfl, Bool.and_eq_true] at agrees
      exact .primitive rfl (by simpa using agrees.1) agrees.2
  · intro agreement
    cases agreement with
    | primitive left right same => rw [agree_primitive left, right, same]; rfl
    | array each => exact agreeItems_iff.mpr each
    | object size each =>
      exact Bool.and_eq_true_iff.mpr ⟨by simpa using size, agreeMembers_iff.mpr each⟩

theorem agree_mono (weaker : ∀ v w, leaf v w = true → leaf' v w = true)
    (agrees : agree leaf v w = true) : agree leaf' v w = true := by
  induction v generalizing w with
  | primitive v h =>
    rw [agree_primitive h, Bool.and_eq_true] at agrees ⊢
    exact ⟨agrees.1, weaker v w agrees.2⟩
  | array items ih =>
    cases agree_iff.mp agrees with
    | primitive left => contradiction
    | array each =>
      obtain ⟨size, pairs⟩ := List.forall₂_iff_zip.mp each
      refine agree_iff.mpr (.array (List.forall₂_iff_zip.mpr ⟨size, fun pair => ?_⟩))
      exact ih _ (List.of_mem_zip pair).1 (pairs pair)
  | object members ih =>
    cases agree_iff.mp agrees with
    | primitive left => contradiction
    | object size each =>
      refine agree_iff.mpr (.object size fun member inside => ?_)
      obtain ⟨y, found, same⟩ := each member inside
      exact ⟨y, found, ih member inside same⟩

theorem agree_self (self : ∀ v, v.isContainer = false → leaf v v = true)
    (distinct : v.DistinctKeys) : agree leaf v v = true := by
  induction distinct with
  | primitive h => exact agree_iff.mpr (.primitive h h (self _ h))
  | array each ih => exact agree_iff.mpr (.array (List.forall₂_same.mpr ih))
  | object own each ih =>
    refine agree_iff.mpr (.object rfl fun member inside => ?_)
    exact ⟨member.2, (lookup_eq_some_iff_mem own).mpr inside, ih member inside⟩

/-- As many members, and all keys of the left one on the right: then the keys are the same. -/
theorem keys_perm {ms ns : Members} (own : (ms.map (·.1)).Nodup) (size : ms.length = ns.length)
    (each : ∀ member ∈ ms, ∃ y, ns.lookup member.1 = some y) :
    (ms.map (·.1)).Perm (ns.map (·.1)) := by
  have inside : ms.map (·.1) ⊆ ns.map (·.1) := by
    refine List.forall_mem_map.mpr fun member member' => ?_
    obtain ⟨y, found⟩ := each member member'
    exact List.mem_map.mpr ⟨_, mem_of_lookup found, rfl⟩
  exact (List.subperm_of_subset own inside).perm_of_length_le (by simp [size])

theorem agree_symm (symm : ∀ v w, leaf v w = true → leaf w v = true) (left : v.DistinctKeys)
    (right : w.DistinctKeys) (agrees : agree leaf v w = true) : agree leaf w v = true := by
  induction left generalizing w with
  | @primitive v h =>
    rw [agree_primitive h, Bool.and_eq_true] at agrees
    exact agree_iff.mpr (.primitive (by simpa using agrees.1) h (symm v w agrees.2))
  | array each ih =>
    cases agree_iff.mp agrees with
    | primitive left => contradiction
    | array pairwise =>
      obtain ⟨size, pairs⟩ := List.forall₂_iff_zip.mp pairwise
      refine agree_iff.mpr (.array (List.Forall₂.flip (List.forall₂_iff_zip.mpr ⟨size, ?_⟩)))
      intro x y pair
      obtain ⟨xIn, yIn⟩ := List.of_mem_zip pair
      exact ih x xIn (right.of_array y yIn) (pairs pair)
  | @object ms own each ih =>
    cases agree_iff.mp agrees with
    | primitive left => contradiction
    | @object _ ns size matched =>
      obtain ⟨ownRight, eachRight⟩ := right.of_object
      have keys := keys_perm own size fun member inside =>
        (matched member inside).imp fun _ both => both.1
      refine agree_iff.mpr (.object size.symm fun member inside => ?_)
      obtain ⟨key, y⟩ := member
      -- The key is one of the left object's, and what was found there under it is this member.
      obtain ⟨partner, partnerIn, rfl⟩ :=
        List.mem_map.mp (keys.mem_iff.mpr (List.mem_map_of_mem inside))
      obtain ⟨y', found, same⟩ := matched partner partnerIn
      rw [(lookup_eq_some_iff_mem ownRight).mpr inside] at found
      cases found
      exact ⟨partner.2, (lookup_eq_some_iff_mem own).mpr partnerIn,
        ih partner partnerIn (eachRight _ inside) same⟩

end Agreement

/-- The second value comes from the first by reordering members, in any objects at any depth. -/
inductive Reordered : Value → Value → Prop
  | same {v : Value} : Reordered v v
  | trans {u v w : Value} (first : Reordered u v) (second : Reordered v w) : Reordered u w
  | reorder {members members' : Members} (distinct : (members.map (·.1)).Nodup)
      (perm : members.Perm members') : Reordered (.object members) (.object members')
  | member {before after : Members} {key : String} {v w : Value} (inner : Reordered v w) :
      Reordered (.object (before ++ (key, v) :: after)) (.object (before ++ (key, w) :: after))
  | item {before after : List Value} {v w : Value} (inner : Reordered v w) :
      Reordered (.array (before ++ v :: after)) (.array (before ++ w :: after))

def Interchangeable (leaf : Value → Value → Bool) (v w : Value) : Prop :=
  ∀ u, agree leaf v u = agree leaf w u ∧ agree leaf u v = agree leaf u w

section Interchanging

variable {leaf : Value → Value → Bool} {v w : Value}

theorem agree_objects {ms ns : Members} :
    agree leaf (.object ms) (.object ns) = true ↔ ms.length = ns.length ∧
      ∀ member ∈ ms, ∃ y, ns.lookup member.1 = some y ∧ agree leaf member.2 y = true :=
  Bool.and_eq_true_iff.trans (and_congr beq_iff_eq agreeMembers_iff)

theorem agreeItems_interchange (same : Interchangeable leaf v w) (before after ys : List Value) :
    agreeItems leaf (before ++ v :: after) ys = agreeItems leaf (before ++ w :: after) ys ∧
      agreeItems leaf ys (before ++ v :: after) = agreeItems leaf ys (before ++ w :: after) := by
  induction before generalizing ys with
  | nil => cases ys <;> simp [agreeItems, same _]
  | cons x before ih => cases ys <;> simp [agreeItems, ih]

theorem Interchangeable.items (same : Interchangeable leaf v w) (before after : List Value) :
    Interchangeable leaf (.array (before ++ v :: after)) (.array (before ++ w :: after)) := by
  intro u
  cases u with
  | array ys => exact agreeItems_interchange same before after ys
  | _ => exact ⟨rfl, rfl⟩

theorem Interchangeable.objects {ms ms' : Members} (size : ms.length = ms'.length)
    (asLeft : ∀ ns : Members,
      (∀ member ∈ ms, ∃ y, ns.lookup member.1 = some y ∧ agree leaf member.2 y = true) ↔
        ∀ member ∈ ms', ∃ y, ns.lookup member.1 = some y ∧ agree leaf member.2 y = true)
    (asRight : ∀ key x, (∃ y, ms.lookup key = some y ∧ agree leaf x y = true) ↔
      ∃ y, ms'.lookup key = some y ∧ agree leaf x y = true) :
    Interchangeable leaf (.object ms) (.object ms') := by
  intro u
  cases u with
  | object ns =>
    refine ⟨Bool.eq_iff_iff.mpr ?_, Bool.eq_iff_iff.mpr ?_⟩
    · rw [agree_objects, agree_objects, size, asLeft]
    · simp only [agree_objects, size, asRight]
  | _ => exact ⟨rfl, rfl⟩

theorem Interchangeable.members (same : Interchangeable leaf v w) (before after : Members)
    (key : String) :
    Interchangeable leaf (.object (before ++ (key, v) :: after))
      (.object (before ++ (key, w) :: after)) := by
  refine .objects (by simp) (fun ns => ?_) fun name x => ?_
  · simp only [List.forall_mem_append, List.forall_mem_cons, (same _).1]
  · rw [List.lookup_append, List.lookup_append, List.lookup_cons, List.lookup_cons]
    cases before.lookup name with
    | some found => exact Iff.rfl
    | none =>
      cases name == key with
      | true => simp [(same x).2]
      | false => exact Iff.rfl

theorem Reordered.interchangeable (h : Reordered v w) (leaf : Value → Value → Bool) :
    Interchangeable leaf v w := by
  induction h with
  | same => exact fun u => ⟨rfl, rfl⟩
  | trans first second ih ih' =>
    exact fun u => ⟨(ih u).1.trans (ih' u).1, (ih u).2.trans (ih' u).2⟩
  | reorder distinct perm =>
    refine .objects perm.length_eq (fun ns => ?_) fun key x => ?_
    · simp only [perm.mem_iff]
    · rw [lookup_perm distinct perm]
  | member inner ih => exact ih.members _ _ _
  | item inner ih => exact ih.items _ _

end Interchanging

section Leaves

variable {v w : Value}

theorem looseLeaf_self (primitive : v.isContainer = false) : looseLeaf v v = true := by
  cases v with
  | array items => contradiction
  | object members => contradiction
  | number n => exact beq_iff_eq.mpr n.order_self
  | _ => simp [looseLeaf]

theorem looseLeaf_symm (same : looseLeaf v w = true) : looseLeaf w v = true := by
  cases v with
  | null =>
    cases w with
    | null => rfl
    | _ => contradiction
  | _ =>
    cases w with
    | null => contradiction
    | _ =>
      rw [looseLeaf_eq_relate rfl rfl, beq_iff_eq] at same ⊢
      rw [relate_swap, same]
      rfl

theorem strictLeaf_of_same_kind (kind : v.kindName = w.kindName) :
    strictLeaf v w = looseLeaf v w := by
  cases v <;> cases w <;> simp [kindName] at kind <;> rfl

theorem strictLeaf_of_other_kind (kind : v.kindName ≠ w.kindName) : strictLeaf v w = false := by
  cases v <;> cases w <;> first | rfl | exact absurd rfl kind

theorem strictLeaf_iff :
    strictLeaf v w = true ↔ v.kindName = w.kindName ∧ looseLeaf v w = true := by
  by_cases kind : v.kindName = w.kindName
  · simp [strictLeaf_of_same_kind kind, kind]
  · simp [strictLeaf_of_other_kind kind, kind]

theorem strictLeaf_self (primitive : v.isContainer = false) : strictLeaf v v = true :=
  strictLeaf_iff.mpr ⟨rfl, looseLeaf_self primitive⟩

theorem strictLeaf_symm (same : strictLeaf v w = true) : strictLeaf w v = true := by
  obtain ⟨kind, loose⟩ := strictLeaf_iff.mp same
  exact strictLeaf_iff.mpr ⟨kind.symm, looseLeaf_symm loose⟩

theorem looseEq_self (distinct : v.DistinctKeys) : v.looseEq v = true :=
  agree_self (fun _ => looseLeaf_self) distinct

theorem strictEq_self (distinct : v.DistinctKeys) : v.strictEq v = true :=
  agree_self (fun _ => strictLeaf_self) distinct

end Leaves

/-- Both equalities are reflexive and symmetric on values whose keys are distinct, the strict one
implies the loose one, and the order of members matters to neither on either side. -/
theorem equality_laws :
    (∀ v : Value, v.DistinctKeys → v.looseEq v = true ∧ v.strictEq v = true) ∧
      (∀ v w : Value, v.DistinctKeys → w.DistinctKeys →
        v.looseEq w = w.looseEq v ∧ v.strictEq w = w.strictEq v) ∧
      (∀ v w : Value, v.strictEq w = true → v.looseEq w = true) ∧
      ∀ v w : Value, Reordered v w → ∀ u : Value,
        v.looseEq u = w.looseEq u ∧ u.looseEq v = u.looseEq w ∧
          v.strictEq u = w.strictEq u ∧ u.strictEq v = u.strictEq w := by
  refine ⟨fun v distinct => ?_, fun v w left right => ?_, fun v w strict => ?_,
    fun v w reordered u => ?_⟩
  · exact ⟨looseEq_self distinct, strictEq_self distinct⟩
  · have loose : ∀ v w : Value, looseLeaf v w = true → looseLeaf w v = true :=
      fun _ _ => looseLeaf_symm
    have strict : ∀ v w : Value, strictLeaf v w = true → strictLeaf w v = true :=
      fun _ _ => strictLeaf_symm
    exact ⟨Bool.eq_iff_iff.mpr ⟨agree_symm loose left right, agree_symm loose right left⟩,
      Bool.eq_iff_iff.mpr ⟨agree_symm strict left right, agree_symm strict right left⟩⟩
  · exact agree_mono (fun _ _ same => (strictLeaf_iff.mp same).2) strict
  · obtain ⟨left, right⟩ := reordered.interchangeable looseLeaf u
    obtain ⟨left', right'⟩ := reordered.interchangeable strictLeaf u
    exact ⟨left, right, left', right'⟩

def orderLine : Value :=
  .object [("id", .int 7), ("lines", .array [.object [("sku", .string "2"), ("note", .null)]])]

def orderLineTurned : Value :=
  .object [("lines", .array [.object [("note", .null), ("sku", .string "2")]]), ("id", .int 7)]

theorem equality_laws_turned :
    orderLine.DistinctKeys ∧ orderLineTurned.DistinctKeys ∧ Reordered orderLine orderLineTurned ∧
      orderLine.strictEq orderLineTurned = true ∧ orderLineTurned.strictEq orderLine = true ∧
      orderLineTurned.looseEq orderLine = true := by
  have line : (Value.object [("sku", .string "2"), ("note", .null)]).DistinctKeys :=
    .object (by decide) (by simpa using ⟨.primitive rfl, .primitive rfl⟩)
  have lineTurned : (Value.object [("note", .null), ("sku", .string "2")]).DistinctKeys :=
    .object (by decide) (by simpa using ⟨.primitive rfl, .primitive rfl⟩)
  have left : orderLine.DistinctKeys :=
    .object (by decide) (by simpa using ⟨.primitive rfl, .array (by simpa using line)⟩)
  have right : orderLineTurned.DistinctKeys :=
    .object (by decide) (by simpa using ⟨.array (by simpa using lineTurned), .primitive rfl⟩)
  have inner : Reordered (.array [.object [("sku", .string "2"), ("note", .null)]])
      (.array [.object [("note", .null), ("sku", .string "2")]]) :=
    @Reordered.item [] [] _ _ (.reorder (by decide) (.swap _ _ _))
  have reordered : Reordered orderLine orderLineTurned :=
    (@Reordered.member [("id", .int 7)] [] "lines" _ _ inner).trans
      (.reorder (by decide) (.swap _ _ _))
  obtain ⟨self, symm, implies, interchange⟩ := equality_laws
  have strict : orderLine.strictEq orderLineTurned = true :=
    (interchange _ _ reordered orderLine).2.2.2 ▸ (self _ left).2
  have turned : orderLineTurned.strictEq orderLine = true := (symm _ _ left right).2 ▸ strict
  exact ⟨left, right, reordered, strict, turned, implies _ _ turned⟩

end Value

end DataMatch
