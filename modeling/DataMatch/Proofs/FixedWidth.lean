import DataMatch.Proofs.Numerals
import DataMatch.Proofs.PositionText
import DataMatch.Time.Timestamp

/-! Numbers in a fixed number of digits. Such a text is read back, and two of one width compare as
texts the way their numbers compare. -/
namespace DataMatch

section Comparing

variable {α : Type} [Ord α] {xs ys : List α}

theorem compare_append (size : xs.length = ys.length) (rest others : List α) :
    compare (xs ++ rest) (ys ++ others) = (compare xs ys).then (compare rest others) := by
  induction xs generalizing ys with
  | nil =>
    obtain rfl := List.length_eq_zero_iff.mp size.symm
    rfl
  | cons x xs ih =>
    cases ys with
    | nil => contradiction
    | cons y ys =>
      rw [List.cons_append, List.cons_append, List.compare_cons_cons, List.compare_cons_cons,
        ih (Nat.succ.inj size), Ordering.then_assoc]

theorem compare_cons_self [Std.ReflOrd α] (x : α) (xs ys : List α) :
    compare (x :: xs) (x :: ys) = compare xs ys := by
  have self : compare x x = .eq := Std.ReflCmp.compare_self
  rw [List.compare_cons_cons, self, Ordering.eq_then]

theorem compare_chars_eq_lt {cs ds : List Char} : compare cs ds = .lt ↔ cs < ds := by
  induction cs generalizing ds with
  | nil => cases ds <;> simp
  | cons c cs ih =>
    cases ds with
    | nil => simp
    | cons d ds =>
      have chars : compare c d = .lt ↔ c < d := compareOfLessAndEq_eq_lt
      rw [List.compare_cons_cons, Ordering.then_eq_lt, List.cons_lt_cons_iff, ih, chars,
        Std.compare_eq_iff_eq]

theorem compare_toList (s t : String) : compare s t = compare s.toList t.toList := by
  have lt : ∀ s t : String, compare s.toList t.toList = .lt → compare s t = .lt :=
    fun s t below => compareOfLessAndEq_eq_lt.mpr (String.lt_iff.mpr (compare_chars_eq_lt.mp below))
  cases order : compare s.toList t.toList with
  | lt => exact lt s t order
  | eq =>
    rw [String.toList_injective (Std.compare_eq_iff_eq.mp order)]
    exact Std.ReflCmp.compare_self
  | gt =>
    have above : compare t.toList s.toList = .lt := Std.OrientedCmp.lt_of_gt order
    exact Std.OrientedCmp.gt_of_lt (lt t s above)

theorem compare_natCast (m n : Nat) : compare (m : Int) (n : Int) = compare m n := by
  simp only [Int.compare_eq_ite_lt, Nat.compare_eq_ite_lt, Int.ofNat_lt]

theorem compare_ediv_emod {k : Int} (pos : 0 < k) (m n : Int) :
    compare m n = (compare (m / k) (n / k)).then (compare (m % k) (n % k)) := by
  have apart : ∀ {m n : Int}, m / k < n / k → m < n := by
    intro m n quotients
    refine Int.not_le.mp fun above => ?_
    exact absurd (Int.ediv_le_ediv pos above) (Int.not_le.mpr quotients)
  rcases Int.lt_trichotomy (m / k) (n / k) with below | same | above
  · rw [Int.compare_eq_lt.mpr below, Int.compare_eq_lt.mpr (apart below)]
    rfl
  · have left := Int.mul_ediv_add_emod m k
    have right := Int.mul_ediv_add_emod n k
    have self : compare (n / k) (n / k) = .eq := Std.ReflCmp.compare_self
    rw [same] at left
    rw [same, self, Ordering.eq_then, Int.compare_eq_ite_lt, Int.compare_eq_ite_lt]
    congr 1 <;> grind
  · rw [Int.compare_eq_gt.mpr above, Int.compare_eq_gt.mpr (apart above)]
    rfl

theorem compare_div_mod {k : Nat} (pos : 0 < k) (m n : Nat) :
    compare m n = (compare (m / k) (n / k)).then (compare (m % k) (n % k)) := by
  have integers := compare_ediv_emod (Int.ofNat_lt.mpr pos) m n
  simpa only [← Int.natCast_ediv, ← Int.natCast_emod, compare_natCast] using integers

end Comparing

namespace Text

open Numeral

variable {cs ds : List Char} {m n width : Nat}

structure FixedWidth (width : Nat) (cs : List Char) (n : Nat) : Prop where
  length : cs.length = width
  digits : Digits cs
  value : Nat.ofDigitChars 10 cs 0 = n

theorem exists_digitChar {c : Char} (digit : c.isDigit = true) :
    ∃ d < 10, c = Nat.digitChar d := by
  have bounds : 48 ≤ c.toNat ∧ c.toNat ≤ 57 := by
    simpa [Char.isDigit, UInt32.le_iff_toNat_le] using digit
  refine ⟨c.toNat - 48, by omega, Char.toNat_inj.mp ?_⟩
  rw [Nat.toNat_digitChar_of_lt_ten (by omega)]
  omega

theorem compare_digitChar : ∀ d < 10, ∀ e < 10,
    compare (Nat.digitChar d) (Nat.digitChar e) = compare d e := by decide

theorem value_append (cs ds : List Char) :
    Nat.ofDigitChars 10 (cs ++ ds) 0 =
      Nat.ofDigitChars 10 cs 0 * Nat.pow 10 ds.length + Nat.ofDigitChars 10 ds 0 := by
  rw [Nat.ofDigitChars_append, Nat.ofDigitChars_eq_ofDigitChars_zero, Nat.mul_comm]
  rfl

theorem value_cons {d : Nat} (small : d < 10) (cs : List Char) :
    Nat.ofDigitChars 10 (Nat.digitChar d :: cs) 0 =
      d * Nat.pow 10 cs.length + Nat.ofDigitChars 10 cs 0 := by
  have single : Nat.ofDigitChars 10 [Nat.digitChar d] 0 = d := by
    rw [Nat.ofDigitChars_cons_digitChar_of_lt_ten small]
    simp
  rw [← List.singleton_append, value_append, single]

theorem value_lt (digits : Digits cs) : Nat.ofDigitChars 10 cs 0 < Nat.pow 10 cs.length := by
  induction cs with
  | nil => decide
  | cons c cs ih =>
    obtain ⟨digit, rest⟩ := List.forall_mem_cons.mp digits
    obtain ⟨d, small, rfl⟩ := exists_digitChar digit
    have scaled := Nat.mul_le_mul_right (Nat.pow 10 cs.length) (Nat.succ_le_of_lt small)
    have below := ih rest
    rw [Nat.succ_mul] at scaled
    rw [value_cons small]
    change _ < Nat.pow 10 cs.length * 10
    omega

theorem pow_ten_pos (k : Nat) : 0 < Nat.pow 10 k := Nat.pow_pos (by decide)

theorem mul_add_div {b v : Nat} (small : v < b) (a : Nat) : (a * b + v) / b = a := by
  rw [Nat.mul_comm, Nat.mul_add_div (by omega), Nat.div_eq_of_lt small, Nat.add_zero]

theorem mul_add_mod {b v : Nat} (small : v < b) (a : Nat) : (a * b + v) % b = v := by
  rw [Nat.mul_comm, Nat.mul_add_mod, Nat.mod_eq_of_lt small]

theorem compare_mul_add {b v w : Nat} (below : v < b) (below' : w < b) (x y : Nat) :
    compare (x * b + v) (y * b + w) = (compare x y).then (compare v w) := by
  rw [compare_div_mod (k := b) (by omega) (x * b + v), mul_add_div below, mul_add_div below',
    mul_add_mod below, mul_add_mod below']

namespace FixedWidth

theorem compare_eq (left : FixedWidth width cs m) (right : FixedWidth width ds n) :
    compare cs ds = compare m n := by
  obtain ⟨rfl, digits, rfl⟩ := left
  obtain ⟨size, digits', rfl⟩ := right
  -- On both texts at once: whatever follows, it weighs less than one more in the first digit.
  induction cs generalizing ds with
  | nil =>
    obtain rfl := List.length_eq_zero_iff.mp size
    rfl
  | cons c cs ih =>
    cases ds with
    | nil => contradiction
    | cons d ds =>
      have tails : ds.length = cs.length := Nat.succ.inj size
      obtain ⟨digit, rest⟩ := List.forall_mem_cons.mp digits
      obtain ⟨digit', rest'⟩ := List.forall_mem_cons.mp digits'
      obtain ⟨a, small, rfl⟩ := exists_digitChar digit
      obtain ⟨b, small', rfl⟩ := exists_digitChar digit'
      have below := value_lt rest
      have below' := value_lt rest'
      rw [tails] at below'
      rw [List.compare_cons_cons, compare_digitChar a small b small', ih rest tails rest',
        value_cons small, value_cons small', tails, compare_mul_add below below']

theorem split {p q : Nat} (field : FixedWidth (p + q) cs n) :
    FixedWidth p (cs.take p) (n / Nat.pow 10 q) ∧ FixedWidth q (cs.drop p) (n % Nat.pow 10 q) := by
  obtain ⟨size, digits, rfl⟩ := field
  have front : Digits (cs.take p) := fun c member => digits c (List.mem_of_mem_take member)
  have back : Digits (cs.drop p) := fun c member => digits c (List.mem_of_mem_drop member)
  have length : (cs.drop p).length = q := by simp [size]
  have below := value_lt back
  have whole := value_append (cs.take p) (cs.drop p)
  rw [List.take_append_drop] at whole
  rw [length] at below whole
  rw [whole, mul_add_div below, mul_add_mod below]
  exact ⟨⟨by simp [size], front, rfl⟩, ⟨length, back, rfl⟩⟩

end FixedWidth

theorem readDigits_eq_some_iff :
    readDigits cs = some n ↔ cs ≠ [] ∧ Digits cs ∧ Nat.ofDigitChars 10 cs 0 = n := by
  unfold readDigits Digits
  rw [← List.all_eq_true, ← and_assoc]
  split
  · rename_i digits
    rw [Option.some.injEq, and_iff_right digits]
  · rename_i other
    exact iff_of_false nofun fun both => other both.1

end Text

namespace Time

open Numeral Text

variable {width n : Nat}

theorem zeros_natCast (width n : Nat) :
    zeros width n =
      List.replicate (width - (Nat.toDigits 10 n).length) '0' ++ Nat.toDigits 10 n := by
  have positive : ¬ (n : Int) < 0 := by omega
  simp [zeros, padded, positive, decimalDigits]

theorem digits_zeros (width n : Nat) : Digits (zeros width n) := by
  rw [zeros_natCast]
  refine List.forall_mem_append.mpr ⟨fun c member => ?_, fun c => isDigit_of_mem_decimal⟩
  rw [List.eq_of_mem_replicate member]
  rfl

theorem value_zeros (width n : Nat) : Nat.ofDigitChars 10 (zeros width n) 0 = n := by
  rw [zeros_natCast, Nat.ofDigitChars_append, Nat.ofDigitChars_replicate_zero, Nat.mul_zero,
    Nat.ofDigitChars_ten_toDigits]

theorem zeros_ne_nil (width n : Nat) : zeros width n ≠ [] := by
  simp [zeros_natCast]

theorem fixedWidth_zeros (pos : 0 < width) (bound : n < Nat.pow 10 width) :
    FixedWidth width (zeros width n) n := by
  have short := (Nat.length_toDigits_le_iff (by decide) pos).mpr bound
  refine ⟨?_, digits_zeros width n, value_zeros width n⟩
  rw [zeros_natCast, List.length_append, List.length_replicate]
  omega

end Time

end DataMatch
