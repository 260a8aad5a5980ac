import Mathlib.Data.List.Induction
import DataMatch.Decode
import DataMatch.Proofs.Members
import DataMatch.Proofs.Traversal

/-! Documents of required fields. Such a document lists names under the keys of the three buckets;
what is read from it are these lists, in whatever order the keys stand. -/
namespace DataMatch

namespace Bucket

def key : Bucket → String
  | scalar => "scalar"
  | object => "object"
  | array => "array"

theorem key_injective {b c : Bucket} (same : b.key = c.key) : b = c := by
  cases b <;> cases c <;> first | rfl | contradiction

end Bucket

namespace FieldSet

def fields (s : FieldSet) : Bucket → List String
  | .scalar => s.scalar
  | .object => s.object
  | .array => s.array

def withFields (s : FieldSet) (names : List String) : Bucket → FieldSet
  | .scalar => { s with scalar := names }
  | .object => { s with object := names }
  | .array => { s with array := names }

section Fields

variable {s t : FieldSet} {b c : Bucket} {names : List String}

@[simp] theorem fields_withFields : (s.withFields names b).fields b = names := by
  cases b <;> rfl

theorem fields_withFields_of_ne (different : c ≠ b) :
    (s.withFields names b).fields c = s.fields c := by
  cases b <;> cases c <;> first | rfl | contradiction

theorem ext_fields (same : ∀ b, s.fields b = t.fields b) : s = t := by
  cases s
  cases t
  have scalar := same .scalar
  have object := same .object
  have array := same .array
  simp_all [fields]

end Fields

/-- What a document has under a key, read as a list of names: a missing key lists nothing. -/
def Lists : Option Value → List String → Prop
  | none, names => names = []
  | some v, names => v = .array (names.map .string)

structure ReadFrom (members : Members) (s : FieldSet) : Prop where
  known : ∀ member ∈ members, ∃ b, member.1 = Bucket.key b
  listed : ∀ b, Lists (members.lookup (Bucket.key b)) (s.fields b)

section Decode

variable {s t : FieldSet} {members moved : Members} {key : String} {v : Value}

theorem text_eq_ok_iff {name : String} : Decode.text v = .ok name ↔ v = .string name := by
  cases v <;> simp [Decode.text]

theorem texts_eq_ok_iff {names : List String} :
    Decode.texts v = .ok names ↔ v = .array (names.map .string) := by
  cases v with
  | array items =>
    rw [Decode.texts, mapM_eq_ok_iff]
    simp only [text_eq_ok_iff]
    rw [← List.forall₂_map_right_iff, List.forall₂_eq_eq_eq, Value.array.injEq]
  | _ => simp [Decode.texts]

theorem withMember_key (b : Bucket) :
    s.withMember (b.key, v) = (Decode.texts v).map fun names => s.withFields names b := by
  cases b <;> rfl

theorem withMember_eq_ok_iff :
    s.withMember (key, v) = .ok t ↔
      ∃ b names, key = Bucket.key b ∧ v = .array (names.map .string) ∧ t = s.withFields names b := by
  constructor
  · intro taken
    by_cases known : ∃ b, key = Bucket.key b
    · obtain ⟨b, rfl⟩ := known
      rw [withMember_key] at taken
      obtain ⟨names, read, rfl⟩ := map_eq_ok taken
      exact ⟨b, names, rfl, texts_eq_ok_iff.mp read, rfl⟩
    · have other : ∀ b, key ≠ Bucket.key b := fun b same => known ⟨b, same⟩
      have scalar := other .scalar
      have object := other .object
      have array := other .array
      unfold withMember at taken
      split at taken <;> contradiction
  · rintro ⟨b, names, rfl, rfl, rfl⟩
    rw [withMember_key, texts_eq_ok_iff.mpr rfl]
    rfl

theorem decode_append (members : Members) (member : String × Value) :
    decode (.object (members ++ [member])) =
      (decode (.object members)).bind fun s => s.withMember member := by
  simp only [decode, List.foldlM_append, List.foldlM_cons, List.foldlM_nil]
  cases members.foldlM withMember empty with
  | error e => rfl
  | ok s => cases h : s.withMember member <;> simp [bind, Except.bind, pure, Except.pure, h]

theorem readFrom_nil : ReadFrom [] s ↔ s = empty := by
  constructor
  · intro read
    refine ext_fields fun b => ?_
    have nothing : s.fields b = [] := read.listed b
    rw [nothing]
    cases b <;> rfl
  · rintro rfl
    exact ⟨nofun, fun b => by cases b <;> rfl⟩

theorem readFrom_append (fresh : key ∉ members.map (·.1)) :
    ReadFrom (members ++ [(key, v)]) t ↔
      ∃ s, ReadFrom members s ∧ s.withMember (key, v) = .ok t := by
  have own : (members ++ [(key, v)]).lookup key = some v := lookup_append_fresh fresh
  -- Without the member its bucket lists nothing, and the other buckets list what they did.
  constructor
  · intro read
    obtain ⟨b, rfl⟩ := read.known (key, v) (by simp)
    have shown : v = .array ((t.fields b).map .string) := by
      have listed := read.listed b
      rwa [own] at listed
    refine ⟨t.withFields [] b, ⟨fun member inside => ?_, fun c => ?_⟩,
      withMember_eq_ok_iff.mpr ⟨b, t.fields b, rfl, shown, ?_⟩⟩
    · exact read.known member (List.mem_append_left _ inside)
    · by_cases same : c = b
      · subst same
        rw [lookup_eq_none_of_fresh fresh, fields_withFields]
        rfl
      · have different : c.key ≠ b.key := fun equal => same (Bucket.key_injective equal)
        rw [fields_withFields_of_ne same, ← lookup_append_other different]
        exact read.listed c
    · refine ext_fields fun c => ?_
      by_cases same : c = b
      · rw [same, fields_withFields]
      · rw [fields_withFields_of_ne same, fields_withFields_of_ne same]
  · rintro ⟨s, read, taken⟩
    obtain ⟨b, names, rfl, rfl, rfl⟩ := withMember_eq_ok_iff.mp taken
    refine ⟨fun member inside => ?_, fun c => ?_⟩
    · rcases List.mem_append.mp inside with earlier | last
      · exact read.known member earlier
      · obtain rfl := List.mem_singleton.mp last
        exact ⟨b, rfl⟩
    · by_cases same : c = b
      · subst same
        rw [own, fields_withFields]
        rfl
      · have different : c.key ≠ b.key := fun equal => same (Bucket.key_injective equal)
        rw [fields_withFields_of_ne same, lookup_append_other different]
        exact read.listed c

theorem decode_object_eq_ok_iff (distinct : (members.map (·.1)).Nodup) :
    decode (.object members) = .ok s ↔ ReadFrom members s := by
  -- Members are taken from the first to the last, so the induction is on the last one.
  induction members using List.reverseRecOn generalizing s with
  | nil =>
    rw [readFrom_nil]
    exact ⟨fun read => (Except.ok.inj read).symm, fun same => same ▸ rfl⟩
  | append_singleton members member ih =>
    have before : (members.map (·.1)).Nodup := by
      rw [List.map_append] at distinct
      exact distinct.of_append_left
    rw [decode_append, readFrom_append (fresh_of_distinct distinct)]
    constructor
    · intro read
      obtain ⟨earlier, read, taken⟩ := bind_eq_ok read
      exact ⟨earlier, (ih before).mp read, taken⟩
    · rintro ⟨earlier, read, taken⟩
      rw [(ih before).mpr read]
      exact taken

theorem ReadFrom.perm (read : ReadFrom members s) (distinct : (members.map (·.1)).Nodup)
    (perm : members.Perm moved) : ReadFrom moved s where
  known member inside := read.known member (perm.mem_iff.mpr inside)
  listed b := lookup_perm distinct perm ▸ read.listed b

theorem decode_perm (distinct : (members.map (·.1)).Nodup) (perm : members.Perm moved) :
    decode (.object members) = .ok s ↔ decode (.object moved) = .ok s := by
  have distinct' : (moved.map (·.1)).Nodup := (perm.map (·.1)).nodup_iff.mp distinct
  rw [decode_object_eq_ok_iff distinct, decode_object_eq_ok_iff distinct']
  exact ⟨fun read => read.perm distinct perm, fun read => read.perm distinct' perm.symm⟩

end Decode

end FieldSet

end DataMatch
