import DataMatch.Proofs.JsonText
import DataMatch.Proofs.Requirements
import DataMatch.Proofs.Stages

/-! Which documents of required fields are read, and what is written is read again. A document that
has another key, or anything but a list of texts under one of the three keys, is refused, so no
demand is lost without notice. -/
namespace DataMatch.FieldSet

def ListsNames (member : String × Value) : Prop :=
  member.1 ∈ ["scalar", "object", "array"] ∧
    ∃ names : List String, member.2 = .array (names.map .string)

section Documents

variable {members moved : Members} {s : FieldSet}

theorem mem_keys_iff {key : String} :
    key ∈ ["scalar", "object", "array"] ↔ ∃ b, key = Bucket.key b := by
  simp only [List.mem_cons, List.not_mem_nil, or_false]
  constructor
  · rintro (rfl | rfl | rfl)
    · exact ⟨.scalar, rfl⟩
    · exact ⟨.object, rfl⟩
    · exact ⟨.array, rfl⟩
  · rintro ⟨b, rfl⟩
    cases b <;> simp [Bucket.key]

theorem exists_withMember_iff {member : String × Value} :
    (∃ t, s.withMember member = .ok t) ↔ ListsNames member := by
  rw [ListsNames, mem_keys_iff]
  constructor
  · rintro ⟨t, taken⟩
    obtain ⟨b, names, key, value, _⟩ := withMember_eq_ok_iff.mp taken
    exact ⟨⟨b, key⟩, names, value⟩
  · rintro ⟨⟨b, key⟩, names, value⟩
    exact ⟨s.withFields names b, withMember_eq_ok_iff.mpr ⟨b, names, key, value, rfl⟩⟩

theorem exists_decode_iff :
    (∃ s, decode (.object members) = .ok s) ↔ ∀ member ∈ members, ListsNames member := by
  induction members using List.reverseRecOn with
  | nil => exact iff_of_true ⟨empty, rfl⟩ nofun
  | append_singleton members member ih =>
    rw [List.forall_mem_append, List.forall_mem_singleton, ← ih]
    constructor
    · rintro ⟨t, read⟩
      rw [decode_append] at read
      obtain ⟨s, before, taken⟩ := bind_eq_ok read
      exact ⟨⟨s, before⟩, exists_withMember_iff.mp ⟨t, taken⟩⟩
    · rintro ⟨⟨s, before⟩, lists⟩
      obtain ⟨t, taken⟩ := exists_withMember_iff.mpr lists
      refine ⟨t, ?_⟩
      rw [decode_append, before]
      exact taken

theorem readFrom_toValue (s : FieldSet) :
    ReadFrom [("scalar", .array (s.scalar.map .string)), ("object", .array (s.object.map .string)),
      ("array", .array (s.array.map .string))] s where
  known := by
    simp only [List.forall_mem_cons]
    exact ⟨⟨.scalar, rfl⟩, ⟨.object, rfl⟩, ⟨.array, rfl⟩, nofun⟩
  listed b := by cases b <;> rfl

theorem decode_toValue (s : FieldSet) : decode s.toValue = .ok s :=
  (decode_object_eq_ok_iff (by simp)).mpr (readFrom_toValue s)

theorem loadFieldSet_of_holds {files : Files} {path : String}
    (holds : Command.Holds files path (.object members)) :
    Command.loadFieldSet files path = (decode (.object members)).mapError .badFieldSet := by
  obtain ⟨known, opened, read⟩ := holds
  simp only [Command.loadFieldSet, Command.loadDocument, known, opened, Except.mapError, bind,
    Except.bind, read]
  rfl

theorem writable_names {room : Nat} (names : List String) :
    Json.Writable (room + 1) (.array (names.map .string)) :=
  .array (List.forall_mem_map.mpr fun name _ => .string name)

theorem writable_toValue {room : Nat} (s : FieldSet) : Json.Writable (room + 2) s.toValue := by
  refine .object (by simp) ?_
  simp only [List.forall_mem_cons]
  exact ⟨writable_names s.scalar, writable_names s.object, writable_names s.array, nofun⟩

theorem loadFieldSet_text {files : Files} {path : String}
    (known : Format.resolve .document none path = .ok .json)
    (opened : files path = .ok (.file (Text.toBytes s.toValue.text))) :
    Command.loadFieldSet files path = .ok s := by
  have read : Json.read (Text.toBytes s.toValue.text) = .ok s.toValue :=
    Json.read_text (writable_toValue s)
  have document : Command.readEntry .json (.file (Text.toBytes s.toValue.text)) = .ok s.toValue := by
    simp only [Command.readEntry, Format.readDocument, Format.readJson, read]
    rfl
  have holds : Command.Holds files path s.toValue := ⟨known, opened, document⟩
  rw [loadFieldSet_of_holds holds]
  exact congrArg (Except.mapError _) (decode_toValue s)

end Documents

/-- A document of required fields cannot be misread. It is read exactly if each of its keys is one of
the three and lists texts; what is read are these lists, wherever they stand, and nothing for a key
that is missing. A field set that is written is read again as it was, as a document and from the text
of a file, and loading a file has no way round all this. -/
theorem decode_exactly_what_is_listed {members : Members}
    (distinct : (members.map (·.1)).Nodup) :
    ((∃ s, decode (.object members) = .ok s) ↔
        ∀ member ∈ members, member.1 ∈ ["scalar", "object", "array"] ∧
          ∃ names : List String, member.2 = .array (names.map .string)) ∧
      (∀ s, decode (.object members) = .ok s →
        Lists (members.lookup "scalar") s.scalar ∧ Lists (members.lookup "object") s.object ∧
          Lists (members.lookup "array") s.array) ∧
      (∀ moved s, members.Perm moved →
        (decode (.object members) = .ok s ↔ decode (.object moved) = .ok s)) ∧
      (∀ s, decode (.object members) = .ok s → decode s.toValue = .ok s ∧
        ∀ files (path : String), Format.resolve .document none path = .ok .json →
          files path = .ok (.file (Text.toBytes s.toValue.text)) →
          Command.loadFieldSet files path = .ok s) ∧
      ∀ files path, Command.Holds files path (.object members) →
        Command.loadFieldSet files path = (decode (.object members)).mapError .badFieldSet := by
  refine ⟨exists_decode_iff, fun s read => ?_, fun moved s => decode_perm distinct,
    fun s _ => ⟨decode_toValue s, fun files path known opened => ?_⟩, fun files path holds => ?_⟩
  · have listed := ((decode_object_eq_ok_iff distinct).mp read).listed
    exact ⟨listed .scalar, listed .object, listed .array⟩
  · exact loadFieldSet_text known opened
  · exact loadFieldSet_of_holds holds

def ownerFirst : Members :=
  [("object", .array [.string "owner"]), ("scalar", .array [.string "id", .string "state"])]

theorem decode_exactly_what_is_listed_ownerFirst :
    (ownerFirst.map (·.1)).Nodup ∧
      decode (.object ownerFirst.reverse) = .ok ⟨["id", "state"], ["owner"], []⟩ ∧
      decode (toValue ⟨["id", "state"], ["owner"], []⟩) = .ok ⟨["id", "state"], ["owner"], []⟩ ∧
      Command.loadFieldSet
        (fun _ => .ok (.file (Text.toBytes (toValue ⟨["id", "state"], ["owner"], []⟩).text)))
        "required.json" = .ok ⟨["id", "state"], ["owner"], []⟩ ∧
      ¬ ∃ s, decode (.object [("scalar", .null)]) = .ok s := by
  have distinct : (ownerFirst.map (·.1)).Nodup := by decide
  have read : decode (.object ownerFirst) = .ok ⟨["id", "state"], ["owner"], []⟩ := by
    with_unfolding_all rfl
  obtain ⟨_, _, turned, written, _⟩ := decode_exactly_what_is_listed distinct
  obtain ⟨document, file⟩ := written _ read
  have known : Format.resolve .document none "required.json" = .ok .json := by
    with_unfolding_all rfl
  have single : (([("scalar", Value.null)] : Members).map (·.1)).Nodup := by decide
  obtain ⟨accepted, _⟩ := decode_exactly_what_is_listed single
  refine ⟨distinct, ?_, document, ?_, fun refused => ?_⟩
  · exact (turned _ _ ownerFirst.reverse_perm.symm).mp read
  · exact file _ "required.json" known rfl
  · obtain ⟨_, names, null⟩ := accepted.mp refused _ List.mem_cons_self
    contradiction

end DataMatch.FieldSet
