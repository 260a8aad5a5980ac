import Mathlib.Data.List.Induction
import Mathlib.Data.List.Nodup
import DataMatch.Value.Basic

/-! The members of an object by their keys. As long as no key comes twice, a member is found exactly
where it stands, whatever the order of the members is. -/
namespace DataMatch

section Lookup

variable {β : Type} {entries others before after : List (String × β)} {key other : String}
  {entry : β}

theorem mem_of_lookup (found : entries.lookup key = some entry) : (key, entry) ∈ entries := by
  obtain ⟨before, after, rfl, _⟩ := List.lookup_eq_some_iff.mp found
  simp

theorem lookup_eq_some_iff_mem (distinct : (entries.map (·.1)).Nodup) :
    entries.lookup key = some entry ↔ (key, entry) ∈ entries := by
  induction entries with
  | nil => simp
  | cons member rest ih =>
    obtain ⟨k, w⟩ := member
    obtain ⟨absent, distinct⟩ := List.nodup_cons.mp distinct
    rw [List.lookup_cons, List.mem_cons]
    by_cases same : key = k
    · subst same
      have notLater : (key, entry) ∉ rest := fun later => absent (List.mem_map.mpr ⟨_, later, rfl⟩)
      simp [notLater, eq_comm]
    · rw [beq_false_of_ne same]
      simp [same, ih distinct]

theorem lookup_perm (distinct : (entries.map (·.1)).Nodup) (perm : entries.Perm others) :
    entries.lookup key = others.lookup key := by
  have distinct' : (others.map (·.1)).Nodup := (perm.map (·.1)).nodup_iff.mp distinct
  apply Option.ext
  intro entry
  rw [lookup_eq_some_iff_mem distinct, lookup_eq_some_iff_mem distinct', perm.mem_iff]

theorem lookup_cons_other (different : key ≠ other) :
    ((other, entry) :: after).lookup key = after.lookup key := by
  rw [List.lookup_cons, beq_false_of_ne different]

theorem lookup_insert_other (different : key ≠ other) :
    (before ++ (other, entry) :: after).lookup key = (before ++ after).lookup key := by
  simp [List.lookup_append, List.lookup_cons, beq_false_of_ne different]

theorem lookup_append_other (different : key ≠ other) :
    (before ++ [(other, entry)]).lookup key = before.lookup key := by
  rw [lookup_insert_other different, List.append_nil]

theorem lookup_eq_none_of_fresh (fresh : key ∉ entries.map (·.1)) : entries.lookup key = none := by
  refine List.lookup_eq_none_iff.mpr fun member inside => ?_
  have different : key ≠ member.1 := by
    rintro rfl
    exact fresh (List.mem_map_of_mem inside)
  simpa using different

theorem fresh_of_distinct {member : String × β}
    (distinct : ((before ++ member :: after).map (·.1)).Nodup) :
    member.1 ∉ before.map (·.1) := by
  intro inside
  rw [List.map_append, List.map_cons] at distinct
  exact List.disjoint_of_nodup_append distinct inside List.mem_cons_self

theorem lookup_append_fresh (fresh : key ∉ before.map (·.1)) :
    (before ++ [(key, entry)]).lookup key = some entry := by
  simp [List.lookup_append, lookup_eq_none_of_fresh fresh]

theorem exists_last_of_lookup_reverse (found : entries.reverse.lookup key = some entry) :
    ∃ i : Nat, entries[i]? = some (key, entry) ∧
      ∀ later : Nat, i < later → ∀ other, entries[later]? ≠ some (key, other) := by
  obtain ⟨after, before, split, different⟩ := List.lookup_eq_some_iff.mp found
  have whole : entries = before.reverse ++ (key, entry) :: after.reverse := by
    rw [← List.reverse_reverse entries, split]
    simp
  refine ⟨before.reverse.length, by simp [whole], fun later above other there => ?_⟩
  obtain ⟨past, rfl⟩ := Nat.exists_eq_add_of_lt above
  have inside : (key, other) ∈ after := by
    rw [whole, List.getElem?_append_right (by omega)] at there
    have position : before.reverse.length + past + 1 - before.reverse.length = past + 1 := by omega
    rw [position, List.getElem?_cons_succ] at there
    exact List.mem_reverse.mp (List.mem_of_getElem? there)
  simpa using different _ inside

theorem filter_perm_lookups {keys : List String} (distinct : (entries.map (·.1)).Nodup)
    (different : keys.Nodup) :
    (entries.filter (·.1 ∈ keys)).Perm
      (keys.filterMap fun key => (entries.lookup key).map (key, ·)) := by
  -- Neither list holds an entry twice, so it is enough that they hold the same entries.
  have found : (entries.filter (·.1 ∈ keys)).Nodup := (List.Nodup.of_map _ distinct).filter _
  have listed : (keys.filterMap fun key => (entries.lookup key).map (key, ·)).Nodup := by
    refine different.filterMap ?_
    intro key key' member first second
    simp only [Option.mem_def, Option.map_eq_some_iff] at first second
    obtain ⟨v, _, rfl⟩ := first
    obtain ⟨w, _, same⟩ := second
    exact (congrArg Prod.fst same).symm
  refine (List.perm_ext_iff_of_nodup found listed).mpr fun (key, entry) => ?_
  simp only [List.mem_filter, List.mem_filterMap, Option.map_eq_some_iff, decide_eq_true_eq]
  constructor
  · rintro ⟨member, inside⟩
    exact ⟨key, inside, entry, (lookup_eq_some_iff_mem distinct).mpr member, rfl⟩
  · rintro ⟨key', inside, entry', found, same⟩
    cases same
    exact ⟨mem_of_lookup found, inside⟩

end Lookup

namespace Members

theorem keys_insert (ms : Members) (key : String) (v : Value) :
    (ms.insert key v).map (·.1) =
      if key ∈ ms.map (·.1) then ms.map (·.1) else ms.map (·.1) ++ [key] := by
  induction ms with
  | nil => rfl
  | cons member ms ih =>
    obtain ⟨k, w⟩ := member
    by_cases same : k = key
    · simp [insert, same]
    · by_cases later : key ∈ ms.map (·.1)
      · rw [if_pos later] at ih
        simp [insert, same, ih, later]
      · rw [if_neg later] at ih
        simp [insert, same, ih, later, Ne.symm same]

theorem insert_of_fresh {ms : Members} {key : String} (fresh : key ∉ ms.map (·.1)) (v : Value) :
    ms.insert key v = ms ++ [(key, v)] := by
  induction ms with
  | nil => rfl
  | cons member ms ih =>
    rw [List.map_cons, List.mem_cons, not_or] at fresh
    rw [insert, if_neg (Ne.symm fresh.1), ih fresh.2]
    rfl

theorem lookup_insert (ms : Members) (key other : String) (v : Value) :
    (ms.insert key v).lookup other = if other = key then some v else ms.lookup other := by
  induction ms with
  | nil =>
    by_cases same : other = key
    · simp [insert, same]
    · simp [insert, lookup_cons_other same, same]
  | cons member ms ih =>
    obtain ⟨k, w⟩ := member
    rw [insert]
    by_cases own : k = key
    · by_cases same : other = key
      · simp [own, same]
      · rw [if_pos own, own, lookup_cons_other same, lookup_cons_other same, if_neg same]
    · rw [if_neg own]
      by_cases found : other = k
      · simp [found, own]
      · rw [lookup_cons_other found, lookup_cons_other found, ih]

theorem ofList_append (ms : Members) (member : String × Value) :
    ofList (ms ++ [member]) = (ofList ms).insert member.1 member.2 := by
  simp [ofList, List.foldl_append]

theorem nodup_keys_ofList (ms : Members) : ((ofList ms).map (·.1)).Nodup := by
  induction ms using List.reverseRecOn with
  | nil => exact List.nodup_nil
  | append_singleton ms member ih =>
    rw [ofList_append, keys_insert]
    split
    · exact ih
    · rename_i fresh
      exact List.nodup_append_comm.mp (List.nodup_cons.mpr ⟨fresh, ih⟩)

theorem keys_ofList (ms : Members) : (ofList ms).map (·.1) = (ms.map (·.1)).eraseDups := by
  induction ms using List.reverseRecOn with
  | nil => rfl
  | append_singleton ms member ih =>
    rw [ofList_append, keys_insert, ih, List.map_append, List.eraseDups_append]
    by_cases earlier : member.1 ∈ ms.map (·.1)
    · simp [List.removeAll, earlier]
    · simp [List.removeAll, earlier, List.eraseDups_cons]

theorem lookup_ofList (ms : Members) (key : String) :
    (ofList ms).lookup key = ms.reverse.lookup key := by
  induction ms using List.reverseRecOn with
  | nil => rfl
  | append_singleton ms member ih =>
    rw [ofList_append, lookup_insert, List.reverse_append, ih]
    change _ = ((member.1, member.2) :: ms.reverse).lookup key
    by_cases same : key = member.1
    · rw [if_pos same, same, List.lookup_cons_self]
    · rw [if_neg same, lookup_cons_other same]

end Members

inductive Value.DistinctKeys : Value → Prop
  | primitive {v : Value} (h : v.isContainer = false) : DistinctKeys v
  | array {items : List Value} (each : ∀ item ∈ items, DistinctKeys item) :
      DistinctKeys (.array items)
  | object {members : Members} (own : (members.map (·.1)).Nodup)
      (each : ∀ member ∈ members, DistinctKeys member.2) : DistinctKeys (.object members)

theorem Value.DistinctKeys.of_array {items : List Value} (h : (Value.array items).DistinctKeys) :
    ∀ item ∈ items, item.DistinctKeys := by
  cases h with
  | primitive h => contradiction
  | array each => exact each

theorem Value.DistinctKeys.of_object {members : Members}
    (h : (Value.object members).DistinctKeys) :
    (members.map (·.1)).Nodup ∧ ∀ member ∈ members, member.2.DistinctKeys := by
  cases h with
  | primitive h => contradiction
  | object own each => exact ⟨own, each⟩

end DataMatch
