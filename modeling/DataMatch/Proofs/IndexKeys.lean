import Mathlib.Data.List.DropRight
import DataMatch.Proofs.FixedWidth
import DataMatch.Proofs.Words

/-! Keys that stand for positions in a list. A key is read exactly if it is an integer of 64 bits
between blanks, and an integer leads to the item that it counts to from the front or from the end.
Machine words come to the same position without overflow, also from the least of them, which has no
positive counterpart. -/
namespace DataMatch

namespace Text

open Numeral

inductive IntegerText : List Char → Int → Prop
  | unsigned {digits : List Char} (there : digits ≠ []) (only : Digits digits) :
      IntegerText digits (Nat.ofDigitChars 10 digits 0 : Nat)
  | plus {digits : List Char} (there : digits ≠ []) (only : Digits digits) :
      IntegerText ('+' :: digits) (Nat.ofDigitChars 10 digits 0 : Nat)
  | minus {digits : List Char} (there : digits ≠ []) (only : Digits digits) :
      IntegerText ('-' :: digits) (-(Nat.ofDigitChars 10 digits 0 : Nat))

section Reading

variable {cs before body after : List Char} {n : Int}

theorem map_readDigits_eq_some_iff {f : Nat → Int} :
    (readDigits cs).map f = some n ↔
      cs ≠ [] ∧ Digits cs ∧ f (Nat.ofDigitChars 10 cs 0) = n := by
  simp only [Option.map_eq_some_iff, readDigits_eq_some_iff]
  constructor
  · rintro ⟨size, ⟨there, only, rfl⟩, same⟩
    exact ⟨there, only, same⟩
  · rintro ⟨there, only, same⟩
    exact ⟨_, ⟨there, only, rfl⟩, same⟩

theorem readInteger_minus_eq (cs : List Char) :
    readInteger ('-' :: cs) = (readDigits cs).map fun size : Nat => -(size : Int) := by
  rw [readInteger]
  cases readDigits cs <;> rfl

theorem readInteger_eq_some_iff : readInteger cs = some n ↔ IntegerText cs n := by
  constructor
  · intro read
    unfold readInteger at read
    split at read
    · obtain ⟨there, only, rfl⟩ := map_readDigits_eq_some_iff.mp read
      exact .plus there only
    · rename_i digits
      have below := (readInteger_minus_eq digits).symm.trans read
      obtain ⟨there, only, rfl⟩ := map_readDigits_eq_some_iff.mp below
      exact .minus there only
    · obtain ⟨there, only, rfl⟩ := map_readDigits_eq_some_iff.mp read
      exact .unsigned there only
  · intro text
    cases text with
    | unsigned there only =>
      rw [readInteger.eq_3 _ (only.head_ne rfl) (only.head_ne rfl)]
      exact map_readDigits_eq_some_iff.mpr ⟨there, only, rfl⟩
    | plus there only => exact map_readDigits_eq_some_iff.mpr ⟨there, only, rfl⟩
    | minus there only =>
      rw [readInteger_minus_eq]
      exact map_readDigits_eq_some_iff.mpr ⟨there, only, rfl⟩

theorem IntegerText.unblank (text : IntegerText cs n) :
    cs ≠ [] ∧ ∀ c ∈ cs, isBlank c = false := by
  cases text with
  | unsigned there only => exact ⟨there, fun c member => isBlank_of_isDigit (only c member)⟩
  | plus there only =>
    have digits := fun c member => isBlank_of_isDigit (only c member)
    exact ⟨List.cons_ne_nil _ _, List.forall_mem_cons.mpr ⟨rfl, digits⟩⟩
  | minus there only =>
    have digits := fun c member => isBlank_of_isDigit (only c member)
    exact ⟨List.cons_ne_nil _ _, List.forall_mem_cons.mpr ⟨rfl, digits⟩⟩

theorem exists_trim_split (cs : List Char) :
    ∃ before after, cs = before ++ trimChars cs ++ after ∧ (∀ c ∈ before, isBlank c = true) ∧
      ∀ c ∈ after, isBlank c = true := by
  have trimmed : trimChars cs = (cs.dropWhile isBlank).rdropWhile isBlank := rfl
  refine ⟨cs.takeWhile isBlank, (cs.dropWhile isBlank).rtakeWhile isBlank, ?_, ?_, ?_⟩
  · rw [trimmed, List.append_assoc, List.rdropWhile_append_rtakeWhile,
      List.takeWhile_append_dropWhile]
  · exact fun c member => List.mem_takeWhile_imp member
  · exact fun c member => List.mem_rtakeWhile_imp member

theorem dropWhile_blank (blank : ∀ c ∈ before, isBlank c = true) (there : body ≠ [])
    (unblank : ∀ c ∈ body, isBlank c = false) (rest : List Char) :
    (before ++ (body ++ rest)).dropWhile isBlank = body ++ rest := by
  cases body with
  | nil => contradiction
  | cons c body =>
    have shown : isBlank c = false := unblank c List.mem_cons_self
    rw [List.dropWhile_append_of_pos blank, List.cons_append,
      List.dropWhile_cons_of_neg (Bool.not_eq_true _ ▸ shown)]

theorem trimChars_surrounded (blank : ∀ c ∈ before, isBlank c = true) (there : body ≠ [])
    (unblank : ∀ c ∈ body, isBlank c = false) (blank' : ∀ c ∈ after, isBlank c = true) :
    trimChars (before ++ body ++ after) = body := by
  have front := dropWhile_blank blank there unblank after
  have back := @dropWhile_blank after.reverse body.reverse (by simpa using blank')
    (by simpa using there) (by simpa using unblank) []
  rw [List.append_nil] at back
  rw [trimChars, List.append_assoc, front, List.reverse_append, back, List.reverse_reverse]

end Reading

end Text

def IndexKey (key : String) (n : Int) : Prop :=
  ∃ before body after, key.toList = before ++ body ++ after ∧
    (∀ c ∈ before, Text.isBlank c = true) ∧ (∀ c ∈ after, Text.isBlank c = true) ∧
    Text.IntegerText body n

theorem readInteger_trimmed_iff {key : String} {n : Int} :
    Text.readInteger (Text.trimChars key.toList) = some n ↔ IndexKey key n := by
  rw [Text.readInteger_eq_some_iff]
  constructor
  · intro text
    obtain ⟨before, after, split, blank, blank'⟩ := Text.exists_trim_split key.toList
    exact ⟨before, _, after, split, blank, blank', text⟩
  · rintro ⟨before, body, after, split, blank, blank', text⟩
    obtain ⟨there, unblank⟩ := text.unblank
    rw [split, Text.trimChars_surrounded blank there unblank blank']
    exact text

theorem parseIndex_eq_some_iff {key : String} {n : Int} :
    parseIndex key = some n ↔
      IndexKey key n ∧ -(Nat.pow 2 63 : Nat) ≤ n ∧ n < (Nat.pow 2 63 : Nat) := by
  rw [parseIndex, Option.filter_eq_some_iff, readInteger_trimmed_iff, decide_eq_true_iff]

namespace Word

/-- The magnitude of a signed word, as an unsigned one. The least word is its own negative, whose
bits are those of its magnitude. -/
def magnitude (w : Int64) : UInt64 := (if w < 0 then -w else w).toUInt64

def difference? (v w : UInt64) : Option UInt64 := if w ≤ v then some (v - w) else none

/-- The position that a signed word counts to in a list of so many items; from the front it may lie
beyond them. -/
def position? (length : UInt64) (index : Int64) : Option UInt64 :=
  if index < 0 then difference? length (magnitude index) else toUnsigned? index

variable {w : Int64}

theorem toInt_of_negative (negative : w < 0) : w.toInt = w.toUInt64.toNat - UInt64.size := by
  have below : w.toInt < 0 := by simpa using Int64.lt_iff_toInt_lt.mp negative
  have bits : w.toInt = w.toBitVec.toInt := rfl
  rw [BitVec.toInt_eq_toNat_cond, Int64.toNat_toBitVec] at bits
  split at bits
  · omega
  · exact bits

theorem toNat_magnitude (w : Int64) : (magnitude w).toNat = w.toInt.natAbs := by
  unfold magnitude
  split
  · rename_i negative
    -- Negating wraps around only for the least word, whose bits are already its magnitude.
    have value := toInt_of_negative negative
    have below : w.toInt < 0 := by simpa using Int64.lt_iff_toInt_lt.mp negative
    have bound := w.toUInt64.toNat_lt
    have least := w.le_toInt
    have size : UInt64.size = 2 ^ 64 := rfl
    have small : UInt64.size - w.toUInt64.toNat < UInt64.size := by omega
    rw [Int64.toUInt64_neg, UInt64.toNat_neg, Nat.mod_eq_of_lt small]
    omega
  · rename_i other
    have positive : 0 ≤ w := Int64.not_lt.mp other
    have value := Int64.cast_toNatClampNeg w positive
    rw [Int64.toNat_toUInt64_of_le positive]
    omega

theorem difference?_eq (v w : UInt64) :
    (difference? v w).map UInt64.toNat =
      if w.toNat ≤ v.toNat then some (v.toNat - w.toNat) else none := by
  unfold difference?
  by_cases fits : w ≤ v
  · rw [if_pos fits, if_pos (UInt64.le_iff_toNat_le.mp fits), Option.map_some,
      UInt64.toNat_sub_of_le v w fits]
  · rw [if_neg fits, if_neg fun below => fits (UInt64.le_iff_toNat_le.mpr below), Option.map_none]

end Word

section Positions

variable {α : Type} {items : List α} {i : Int}

theorem resolveIndex_front (front : 0 ≤ i) : resolveIndex items i = items[i.toNat]? := by
  rw [resolveIndex, if_pos front]

theorem resolveIndex_back (low : -(items.length : Int) ≤ i) (high : i < 0) :
    resolveIndex items i = items[(items.length + i).toNat]? := by
  have negative : ¬ 0 ≤ i := by omega
  have inside : i.natAbs ≤ items.length := by omega
  have position : items.length - i.natAbs = (items.length + i).toNat := by omega
  rw [resolveIndex, if_neg negative, if_pos inside, position]

theorem resolveIndex_before (low : i < -(items.length : Int)) : resolveIndex items i = none := by
  have negative : ¬ 0 ≤ i := by omega
  have outside : ¬ i.natAbs ≤ items.length := by omega
  rw [resolveIndex, if_neg negative, if_neg outside]

theorem resolveIndex_eq_position (short : items.length < Nat.pow 2 64) (w : Int64) :
    resolveIndex items w.toInt =
      (Word.position? (UInt64.ofNat items.length) w).bind fun position => items[position.toNat]? := by
  have held : (UInt64.ofNat items.length).toNat = items.length := UInt64.toNat_ofNat_of_lt' short
  have bound (position : Option UInt64) : (position.bind fun p => items[p.toNat]?) =
      (position.map UInt64.toNat).bind fun p => items[p]? := by
    cases position <;> rfl
  rw [bound, Word.position?]
  by_cases negative : w < 0
  · have below : w.toInt < 0 := by simpa using Int64.lt_iff_toInt_lt.mp negative
    rw [if_pos negative, Word.difference?_eq, Word.toNat_magnitude, held, resolveIndex,
      if_neg (Int.not_le.mpr below)]
    split <;> rfl
  · have positive : 0 ≤ w := Int64.not_lt.mp negative
    have value := Int64.cast_toNatClampNeg w positive
    rw [if_neg negative, Word.toUnsigned?, if_neg negative, Option.map_some, Option.bind_some,
      Int64.toNat_toUInt64_of_le positive, resolveIndex_front (by omega), ← value, Int.toNat_natCast]

end Positions

/-- Index keys are decoded and applied exactly. A key stands for the integers of 64 bits and no others,
and each of these is read back from its decimal text. In a list, which never has more items than a
signed word can count, an index leads to the item so many places from the front, or from the end if
it is negative, and otherwise to none. Machine words come to the same: even the magnitude of the least
one is held by an unsigned word. -/
theorem index_keys_exact :
    (∀ key n, parseIndex key = some n ↔
        IndexKey key n ∧ -(Nat.pow 2 63 : Nat) ≤ n ∧ n < (Nat.pow 2 63 : Nat)) ∧
      (∀ w : Int64, parseIndex (toString w.toInt) = some w.toInt) ∧
      ∀ {α : Type} (items : List α), items.length < Nat.pow 2 63 → ∀ w : Int64,
        (0 ≤ w.toInt → w.toInt < items.length →
          ∃ item, items[w.toInt.toNat]? = some item ∧ resolveIndex items w.toInt = some item) ∧
        (-(items.length : Int) ≤ w.toInt → w.toInt < 0 →
          ∃ item, items[(items.length + w.toInt).toNat]? = some item ∧
            resolveIndex items w.toInt = some item) ∧
        (w.toInt < -(items.length : Int) ∨ items.length ≤ w.toInt →
          resolveIndex items w.toInt = none) ∧
        (Word.magnitude w).toNat = w.toInt.natAbs ∧
        resolveIndex items w.toInt = (Word.position? (UInt64.ofNat items.length) w).bind
          fun position => items[position.toNat]? := by
  refine ⟨fun key n => parseIndex_eq_some_iff, fun w => ?_, fun items short w => ?_⟩
  · exact parseIndex_toString w.le_toInt w.toInt_lt
  · refine ⟨fun front inside => ?_, fun low high => ?_, ?_, Word.toNat_magnitude w, ?_⟩
    · have bound : w.toInt.toNat < items.length := by omega
      exact ⟨_, List.getElem?_eq_getElem bound,
        (resolveIndex_front front).trans (List.getElem?_eq_getElem bound)⟩
    · have bound : (items.length + w.toInt).toNat < items.length := by omega
      exact ⟨_, List.getElem?_eq_getElem bound,
        (resolveIndex_back low high).trans (List.getElem?_eq_getElem bound)⟩
    · rintro (low | high)
      · exact resolveIndex_before low
      · rw [resolveIndex_front (by omega), List.getElem?_eq_none (by omega)]
    · exact resolveIndex_eq_position (Nat.lt_trans short (by decide)) w

theorem index_keys_exact_threeItems :
    ["a", "b", "c"].length < Nat.pow 2 63 ∧
      (∀ w : Int64, w.toInt = -3 → resolveIndex ["a", "b", "c"] w.toInt = some "a") ∧
      resolveIndex ["a", "b", "c"] Int64.minValue.toInt = none ∧
      (Word.magnitude Int64.minValue).toNat = 9223372036854775808 ∧
      parseIndex "-9223372036854775808" = some Int64.minValue.toInt ∧
      parseIndex "\u2003+007 " = some 7 ∧ parseIndex "9223372036854775808" = none := by
  have short : ["a", "b", "c"].length < Nat.pow 2 63 := by decide
  obtain ⟨parsed, printed, resolved⟩ := index_keys_exact
  refine ⟨short, fun w three => ?_, ?_, ?_, printed Int64.minValue, ?_, ?_⟩
  · obtain ⟨_, back, _⟩ := resolved ["a", "b", "c"] short w
    obtain ⟨item, found, same⟩ := back (by rw [three]; decide) (by rw [three]; decide)
    rw [three] at found
    exact same.trans found.symm
  · obtain ⟨_, _, outside, _⟩ := resolved ["a", "b", "c"] short Int64.minValue
    exact outside (.inl (by decide))
  · obtain ⟨_, _, _, magnitude, _⟩ := resolved ["a", "b", "c"] short Int64.minValue
    exact magnitude
  · refine (parsed _ 7).mpr ⟨⟨['\u2003'], "+007".toList, [' '], rfl, ?_, ?_, ?_⟩, ?_⟩
    · exact List.forall_mem_singleton.mpr rfl
    · exact List.forall_mem_singleton.mpr rfl
    · exact @Text.IntegerText.plus "007".toList nofun (by decide)
    · decide
  · decide +kernel

end DataMatch
