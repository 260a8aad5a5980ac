import DataMatch.Value.Comparison

/-! Integers compare exactly. A word holds the integer it was made from, words of either kind are
ordered as their integers are, and in the whole range of both kinds the words decide. -/
namespace DataMatch

namespace Word

variable {m n : Int} {v : Int64} {w : UInt64} {o : Ordering}

theorem signed?_eq_some_iff : signed? n = some v ↔ v.toInt = n := by
  have low := v.le_toInt
  have high := v.toInt_lt
  unfold signed?
  split
  · rename_i range
    have held : (Int64.ofInt n).toInt = n := Int64.toInt_ofInt_of_le range.1 range.2
    rw [Option.some.injEq, ← Int64.toInt_inj, held, eq_comm]
  · rename_i outside
    refine ⟨nofun, fun same => absurd ?_ outside⟩
    subst same
    exact ⟨low, high⟩

theorem unsigned?_eq_some_iff : unsigned? n = some w ↔ (w.toNat : Int) = n := by
  have high := w.toNat_lt
  unfold unsigned?
  split
  · rename_i range
    have small : n.toNat < 2 ^ 64 := (Int.toNat_lt range.1).mpr range.2
    have held : (UInt64.ofNat n.toNat).toNat = n.toNat := UInt64.toNat_ofNat_of_lt' small
    rw [Option.some.injEq, ← UInt64.toNat_inj, held]
    omega
  · rename_i outside
    refine ⟨nofun, fun same => absurd ?_ outside⟩
    subst same
    exact ⟨Int.natCast_nonneg _, Int.ofNat_lt.mpr high⟩

theorem toUnsigned?_cases (v : Int64) :
    toUnsigned? v = none ∧ v.toInt < 0 ∨
      ∃ w, toUnsigned? v = some w ∧ (w.toNat : Int) = v.toInt := by
  unfold toUnsigned?
  by_cases negative : v < 0
  · refine .inl ⟨if_pos negative, ?_⟩
    simpa using Int64.lt_iff_toInt_lt.mp negative
  · have positive : 0 ≤ v := Int64.not_lt.mp negative
    refine .inr ⟨v.toUInt64, if_neg negative, ?_⟩
    rw [Int64.toNat_toUInt64_of_le positive, Int64.cast_toNatClampNeg v positive]

theorem compare_signed (v w : Int64) : compare v w = compare v.toInt w.toInt := by
  change compareOfLessAndEq v w = compareOfLessAndEq v.toInt w.toInt
  simp only [compareOfLessAndEq, Int64.lt_iff_toInt_lt, Int64.toInt_inj]

theorem compare_unsigned (v w : UInt64) : compare v w = compare (v.toNat : Int) w.toNat := by
  change compareOfLessAndEq v w = compareOfLessAndEq (v.toNat : Int) w.toNat
  simp only [compareOfLessAndEq, UInt64.lt_iff_toNat_lt, Int.ofNat_lt, Int.natCast_inj,
    UInt64.toNat_inj]

theorem compare_signed_unsigned (v : Int64) (w : UInt64) :
    (toUnsigned? v).elim .lt (compare · w) = compare v.toInt w.toNat := by
  rcases toUnsigned?_cases v with ⟨none, negative⟩ | ⟨same, word, value⟩
  · have below : v.toInt < w.toNat := by omega
    rw [none, Option.elim_none, Std.compare_eq_lt.mpr below]
  · rw [word, Option.elim_some, compare_unsigned, value]

theorem compare_unsigned_signed (v : UInt64) (w : Int64) :
    (toUnsigned? w).elim .gt (compare v ·) = compare (v.toNat : Int) w.toInt := by
  rcases toUnsigned?_cases w with ⟨none, negative⟩ | ⟨same, word, value⟩
  · have below : w.toInt < v.toNat := by omega
    rw [none, Option.elim_none, Std.compare_eq_gt.mpr below]
  · rw [word, Option.elim_some, compare_unsigned, value]

theorem eq_compare_of_order? (answer : order? m n = some o) : o = compare m n := by
  unfold order? at answer
  split at answer
  · rename_i v w left right
    cases answer
    rw [← signed?_eq_some_iff.mp left, ← signed?_eq_some_iff.mp right]
    exact compare_signed v w
  · split at answer
    · rename_i v w left right
      cases answer
      rw [← unsigned?_eq_some_iff.mp left, ← unsigned?_eq_some_iff.mp right]
      exact compare_unsigned v w
    · split at answer
      · rename_i v w left right
        cases answer
        rw [← signed?_eq_some_iff.mp left, ← unsigned?_eq_some_iff.mp right]
        exact compare_signed_unsigned v w
      · split at answer
        · rename_i v w left right
          cases answer
          rw [← unsigned?_eq_some_iff.mp left, ← signed?_eq_some_iff.mp right]
          exact compare_unsigned_signed v w
        · contradiction

theorem Fits.held (fits : Fits n) :
    (∃ v, signed? n = some v) ∨ ∃ w, unsigned? n = some w := by
  by_cases small : n < (Nat.pow 2 63 : Nat)
  · exact .inl ⟨_, if_pos ⟨fits.1, small⟩⟩
  · exact .inr ⟨_, if_pos ⟨by omega, fits.2⟩⟩

theorem Fits.exists_order? (left : Fits m) (right : Fits n) : ∃ o, order? m n = some o := by
  unfold order?
  rcases left.held with ⟨v, left⟩ | ⟨v, left⟩
  · rcases right.held with ⟨w, right⟩ | ⟨w, right⟩
    · rw [left, right]
      exact ⟨_, rfl⟩
    · rw [left, right]
      cases signed? n <;> cases unsigned? m <;> exact ⟨_, rfl⟩
  · rcases right.held with ⟨w, right⟩ | ⟨w, right⟩
    · rw [left, right]
      cases signed? m <;> cases unsigned? n <;> exact ⟨_, rfl⟩
    · rw [left, right]
      cases signed? m <;> cases signed? n <;> exact ⟨_, rfl⟩

theorem order?_of_fits (left : Fits m) (right : Fits n) : order? m n = some (compare m n) := by
  obtain ⟨o, answer⟩ := left.exists_order? right
  rw [answer, eq_compare_of_order? answer]

end Word

theorem Number.order_int (m n : Int) : (int m).order (int n) = some (compare m n) := by
  rw [Number.order]
  cases answer : Word.order? m n with
  | none => rfl
  | some o => rw [Option.getD_some, Word.eq_compare_of_order? answer]

namespace Value

/-- In the whole range from `-2 ^ 63` to `2 ^ 64 - 1` integers compare exactly. Their words decide and
give the order of the integers, and loose equality, strict equality and being the same integer are
one and the same. -/
theorem integers_compare_exactly {m n : Int} (left : Word.Fits m) (right : Word.Fits n) :
    Word.order? m n = some (compare m n) ∧
      (int m).relate (int n) = some (compare m n) ∧
      ((int m).looseEq (int n) = true ↔ m = n) ∧
      ((int m).strictEq (int n) = true ↔ m = n) ∧ (int m = int n ↔ m = n) := by
  have words := Word.order?_of_fits left right
  have order : (Number.int m).order (.int n) = some (compare m n) := by
    rw [Number.order, words, Option.getD_some]
  have equal : ((Number.int m).order (.int n) == some .eq) = true ↔ m = n := by
    rw [order, beq_iff_eq, Option.some.injEq, Std.compare_eq_iff_eq]
  refine ⟨words, order, ?_, ?_, ?_⟩
  · rw [looseEq, agree_primitive rfl]
    exact equal
  · rw [strictEq, agree_primitive rfl]
    exact equal
  · rw [int, int, number.injEq, Number.int.injEq]

theorem integers_compare_exactly_limits :
    Word.Fits (-9223372036854775808) ∧ Word.Fits 18446744073709551615 ∧
      Word.Fits 18446744073709551614 ∧
      (int (-9223372036854775808)).relate (int 18446744073709551615) = some .lt ∧
      (int 18446744073709551615).relate (int 18446744073709551614) = some .gt ∧
      (Number.int 18446744073709551615).toDouble = (Number.int 18446744073709551614).toDouble := by
  have least : Word.Fits (-9223372036854775808) := ⟨by decide, by decide⟩
  have greatest : Word.Fits 18446744073709551615 := ⟨by decide, by decide⟩
  have next : Word.Fits 18446744073709551614 := ⟨by decide, by decide⟩
  obtain ⟨_, apart, _⟩ := integers_compare_exactly least greatest
  obtain ⟨_, close, _⟩ := integers_compare_exactly greatest next
  exact ⟨least, greatest, next, apart, close, by decide +kernel⟩

end Value

end DataMatch
