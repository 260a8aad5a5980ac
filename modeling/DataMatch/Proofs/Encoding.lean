import Mathlib.Data.List.Induction
import DataMatch.Text.Bytes

/-! Bytes that are UTF-8, those of a text, and the carriage return at their end. It belongs to no
other character, so it can be taken off before the bytes are read or after. -/
namespace DataMatch.Text

theorem toList_data_toByteArray (s : String) :
    s.toByteArray.data.toList = s.toList.flatMap String.utf8EncodeChar := by
  rw [← String.utf8Encode_toList, List.utf8Encode, List.toList_data_toByteArray]

theorem toList_loop (bytes : ByteArray) (i : Nat) (done : Bytes) :
    ByteArray.toList.loop bytes i done = done.reverse ++ bytes.data.toList.drop i := by
  rw [ByteArray.toList.loop]
  split
  · rename_i inside
    have listed : i < bytes.data.toList.length := inside
    rw [toList_loop, List.drop_eq_getElem_cons listed]
    simp [ByteArray.get!, inside]
  · rename_i outside
    have beyond : bytes.data.toList.length ≤ i := Nat.not_lt.mp outside
    simp [List.drop_eq_nil_of_le beyond]
termination_by bytes.size - i

theorem toBytes_eq (s : String) : toBytes s = s.toList.flatMap String.utf8EncodeChar :=
  (toList_loop s.toUTF8 0 []).trans (toList_data_toByteArray s)

theorem toBytes_append (s t : String) : toBytes (s ++ t) = toBytes s ++ toBytes t := by
  simp only [toBytes_eq, String.toList_append, List.flatMap_append]

theorem ofBytes?_eq_some_iff {bytes : Bytes} {s : String} :
    ofBytes? bytes = some s ↔ bytes = s.toList.flatMap String.utf8EncodeChar := by
  rw [← toList_data_toByteArray, ofBytes?, String.fromUTF8?]
  constructor
  · intro read
    split at read
    · cases read
      rfl
    · contradiction
  · rintro rfl
    have valid : ByteArray.IsValidUTF8 ⟨s.toByteArray.data.toList.toArray⟩ := s.isValidUTF8
    rw [dif_pos valid]
    rfl

theorem continuation_ne_return (n : Nat) : UInt8.ofNat (n % 64 + 128) ≠ 0x0D := by
  intro same
  have value : (n % 64 + 128) % 256 = 13 := congrArg UInt8.toNat same
  omega

/-- A character whose last byte is that of a carriage return is a carriage return. -/
theorem eq_return_of_encode {c : Char} {before : Bytes}
    (encoded : String.utf8EncodeChar c = before ++ [0x0D]) : before = [] ∧ c = '\r' := by
  have last : (String.utf8EncodeChar c).getLast? = some 0x0D := by
    rw [encoded, List.getLast?_concat]
  unfold String.utf8EncodeChar at last encoded
  dsimp only at last encoded
  split at last
  · rename_i small
    have byte : UInt8.ofNat c.val.toNat = 0x0D := by simpa using last
    have value : c.val.toNat % 256 = 13 := congrArg UInt8.toNat byte
    rw [if_pos small] at encoded
    refine ⟨?_, Char.ext (UInt32.toNat.inj ?_)⟩
    · simpa using (congrArg List.length encoded).symm
    · rw [← Nat.mod_eq_of_lt (Nat.lt_of_le_of_lt small (by decide : 0x7f < 256)), value]
      rfl
  · split at last
    · exact absurd (Option.some.inj last) (continuation_ne_return _)
    · split at last
      · exact absurd (Option.some.inj last) (continuation_ne_return _)
      · exact absurd (Option.some.inj last) (continuation_ne_return _)

theorem ofBytes?_append_return (bytes : Bytes) :
    ofBytes? (bytes ++ [0x0D]) = (ofBytes? bytes).map (· ++ "\r") := by
  apply Option.ext
  intro t
  rw [ofBytes?_eq_some_iff, Option.map_eq_some_iff]
  constructor
  · intro encoded
    rcases List.eq_nil_or_concat t.toList with empty | ⟨front, c, split⟩
    · simp [empty] at encoded
    · rw [split, List.concat_eq_append, List.flatMap_append, List.flatMap_singleton] at encoded
      rcases List.eq_nil_or_concat (String.utf8EncodeChar c) with none | ⟨before, b, parts⟩
      · exact absurd none String.utf8EncodeChar_ne_nil
      · rw [parts, List.concat_eq_append, ← List.append_assoc] at encoded
        obtain ⟨bytesEq, lastEq⟩ := List.append_inj' encoded rfl
        obtain rfl : 0x0D = b := List.singleton_inj.mp lastEq
        obtain ⟨rfl, rfl⟩ := eq_return_of_encode (parts.trans List.concat_eq_append)
        refine ⟨String.ofList front, ofBytes?_eq_some_iff.mpr ?_, String.toList_injective ?_⟩
        · rw [bytesEq, List.append_nil, String.toList_ofList]
        · rw [split, String.toList_append, String.toList_ofList, List.concat_eq_append]
          rfl
  · rintro ⟨s, read, rfl⟩
    rw [ofBytes?_eq_some_iff.mp read, String.toList_append, List.flatMap_append]
    rfl

end DataMatch.Text
