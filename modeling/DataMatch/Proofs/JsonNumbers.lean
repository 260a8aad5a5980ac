import DataMatch.Json.Number
import DataMatch.Proofs.Numerals
import DataMatch.Proofs.Ordering
import DataMatch.Proofs.PositionText
import DataMatch.Proofs.Rounding

/-! Where reading a JSON number needs no more than one rounding. Digits up to `2 ^ 53` and powers of
ten up to the 22nd are exact, so their product or quotient is the nearest double, which is what a
text of the same digits stands for. A number and its text are then equal when they are compared. -/
namespace DataMatch

namespace Numeral

theorem isBlank_of_isNumeric {c : Char} (numeric : isNumeric c = true) : Text.isBlank c = false := by
  rcases Bool.or_eq_true_iff.mp numeric with digit | mark
  · exact Text.isBlank_of_isDigit digit
  · have marks : ("+-.eE".toList.all fun d => !Text.isBlank d) = true := rfl
    have solid := List.all_eq_true.mp marks c (List.contains_iff_mem.mp mark)
    exact (Bool.not_eq_true' _).mp solid

theorem toNumber_of_numeric {s : String} (there : s.toList ≠ [])
    (numeric : ∀ c ∈ s.toList, isNumeric c = true) :
    Text.toNumber s = (Double.ofChars? s.toList).getD .nan := by
  have trimmed : Text.trimChars s.toList = s.toList :=
    Text.trimChars_of_unblank fun c member => isBlank_of_isNumeric (numeric c member)
  have finite : ¬ Infinite s.toList := by
    rintro ⟨sign, _, shape⟩
    have letter := numeric 'I' (by simp [shape])
    contradiction
  have plain : s.toList.any Text.isForeignLetter = false := by
    rw [List.any_eq_false]
    intro c member
    rw [isForeignLetter_of_isNumeric (numeric c member)]
    exact Bool.false_ne_true
  obtain ⟨positive, negative⟩ := not_or.mp (mt infinite_iff.mpr finite)
  rw [Text.toNumber, trimmed]
  simp only [if_neg there, if_neg positive, if_neg negative, plain]
  rfl

end Numeral

namespace Json

variable {cs whole places : List Char} {significand : Nat} {exponent : Int} {negative : Bool}

theorem le_ofDigitChars (cs : List Char) (n : Nat) : n ≤ Nat.ofDigitChars 10 cs n := by
  induction cs generalizing n with
  | nil => exact Nat.le_refl n
  | cons c cs ih =>
    rw [Nat.ofDigitChars_cons]
    exact Nat.le_trans (by omega) (ih _)

theorem extendSignificand_eq (short : Nat.ofDigitChars 10 cs significand < Nat.pow 2 64) :
    extendSignificand significand cs = (Nat.ofDigitChars 10 cs significand, 0) := by
  induction cs generalizing significand with
  | nil => rfl
  | cons c cs ih =>
    rw [Nat.ofDigitChars_cons] at short ⊢
    rw [extendSignificand, if_pos (Nat.lt_of_le_of_lt (le_ofDigitChars cs _) short), ih short]

/-- Five to the 22nd is the last power of five below `2 ^ 53`. -/
theorem powerOfTen_exact {n : Nat} (small : n ≤ 22) :
    powerOfTen n = Nat.pow 10 n * Binary64.unitsPerOne := by
  obtain ⟨t, _, unit, _⟩ := Binary64.exists_exponents
  have fives : Nat.pow 5 n ≤ Nat.pow 2 53 :=
    Nat.le_trans (Nat.pow_le_pow_right (by decide) small) (by decide)
  have split : Nat.pow 10 n * Nat.pow 2 t = Nat.pow 5 n * Nat.pow 2 (n + t) := by
    calc 10 ^ n * 2 ^ t = 5 ^ n * 2 ^ n * 2 ^ t := by rw [← Nat.mul_pow]
      _ = 5 ^ n * 2 ^ (n + t) := by rw [Nat.mul_assoc, Nat.pow_add]
  rw [powerOfTen, unit, split]
  exact Binary64.roundUnits_of_dvd (Binary64.lastPlace_dvd fives)

theorem scaleByTens_exact (short : significand ≤ Nat.pow 2 53) (near : exponent.natAbs ≤ 22) :
    scaleByTens negative (Binary64.roundUnits (significand * Binary64.unitsPerOne) 1) exponent =
      Decimal.toDouble ⟨negative, significand, exponent⟩ := by
  obtain ⟨t, _, unit, _⟩ := Binary64.exists_exponents
  have positive : 0 < Binary64.unitsPerOne := unit ▸ Binary64.pow_two_pos t
  have digits : (Text.decimalDigits significand).length ≤ 16 :=
    (Nat.length_toDigits_le_iff (by decide) (by decide)).mpr (Nat.lt_of_le_of_lt short (by decide))
  have reach : exponent.natAbs ≤ largestPower := Nat.le_trans near (by decide)
  rw [(Binary64.roundUnits_small short).1, scaleByTens.eq_def, Decimal.toDouble]
  by_cases zero : significand = 0
  · rw [if_pos (by rw [zero, Nat.zero_mul]), if_pos (.inl zero)]
  · have low : ¬ (Text.decimalDigits significand).length + exponent < Decimal.leastMagnitude := by
      simp only [Decimal.leastMagnitude]
      omega
    have high : ¬ Decimal.largestMagnitude < (Text.decimalDigits significand).length + exponent := by
      simp only [Decimal.largestMagnitude]
      omega
    rw [if_neg (Nat.mul_ne_zero zero (Nat.ne_of_gt positive)), if_pos reach,
      powerOfTen_exact near, if_neg (not_or.mpr ⟨zero, low⟩), if_neg high]
    -- A product counts the unit of either factor, so one of them has to be cancelled.
    by_cases above : 0 ≤ exponent
    · have power : exponent.natAbs = exponent.toNat := by omega
      have factors : significand * Binary64.unitsPerOne *
          (Nat.pow 10 exponent.toNat * Binary64.unitsPerOne) =
            significand * Nat.pow 10 exponent.toNat * Binary64.unitsPerOne *
              Binary64.unitsPerOne := by
        rw [← Nat.mul_assoc, Nat.mul_right_comm significand]
      have scaled := @Double.ofUnitQuotient_scale
        (significand * Nat.pow 10 exponent.toNat * Binary64.unitsPerOne) 1 _ positive negative
      rw [Nat.one_mul] at scaled
      rw [if_pos above, if_pos above, power, factors, scaled]
      rfl
    · have power : exponent.natAbs = (-exponent).toNat := by omega
      rw [if_neg above, if_neg above, power, Double.ofQuotient,
        Double.ofUnitQuotient_scale positive]

theorem doubleOf_eq_nearest
    (short : Nat.ofDigitChars 10 (whole ++ places) 0 ≤ Nat.pow 2 53)
    (near : (exponent - places.length).natAbs ≤ 22) :
    doubleOf negative whole places exponent =
      Decimal.toDouble ⟨negative, Nat.ofDigitChars 10 (whole ++ places) 0,
        exponent - places.length⟩ := by
  have word : Nat.ofDigitChars 10 (whole ++ places) 0 < Nat.pow 2 64 :=
    Nat.lt_of_le_of_lt short (by decide)
  rw [Nat.ofDigitChars_append] at word
  have front : Nat.ofDigitChars 10 whole 0 < Nat.pow 2 64 :=
    Nat.lt_of_le_of_lt (le_ofDigitChars places _) word
  rw [← scaleByTens_exact short near, Nat.ofDigitChars_append]
  simp [doubleOf, extendSignificand_eq front, extendSignificand_eq word]

theorem doubleOf_eq_text (digits : Numeral.Digits whole) (more : Numeral.Digits places)
    (there : whole ≠ []) (short : Nat.ofDigitChars 10 (whole ++ places) 0 ≤ Nat.pow 2 53)
    (near : places.length ≤ 22) :
    Double.ofUnsigned? negative (whole ++ '.' :: places) =
      some (doubleOf negative whole places 0) := by
  have point : Numeral.NoDigit ('.' :: places) := by
    rintro c tail ⟨⟩
    rfl
  have ends : Numeral.NoDigit [] := nofun
  have empty : ¬ (whole = [] ∧ places = []) := fun bare => there bare.1
  have taken := Numeral.takeWhile_digits more ends
  have dropped := Numeral.dropWhile_digits more ends
  rw [List.append_nil] at taken dropped
  have read : Decimal.readUnsigned negative (whole ++ '.' :: places) =
      some ⟨negative, Nat.ofDigitChars 10 (whole ++ places) 0, 0 - places.length⟩ := by
    simp only [Decimal.readUnsigned, Numeral.takeWhile_digits digits point,
      Numeral.dropWhile_digits digits point, taken, dropped, if_neg empty]
    rfl
  rw [Double.ofUnsigned?, read, doubleOf_eq_nearest short (by omega)]

theorem ofChars?_signed (digit : ∀ c ∈ cs.head?, c.isDigit = true) :
    Double.ofChars? ((if negative then ['-'] else []) ++ cs) = Double.ofUnsigned? negative cs := by
  cases negative with
  | true => rfl
  | false =>
    have plus : ∀ tail, cs ≠ '+' :: tail := by
      rintro tail rfl
      exact absurd (digit '+' rfl) (by decide)
    have minus : ∀ tail, cs ≠ '-' :: tail := by
      rintro tail rfl
      exact absurd (digit '-' rfl) (by decide)
    exact Double.ofChars?.eq_3 cs plus minus

theorem numberOf_fraction {n : Number}
    (read : numberOf negative whole (some places) none = some n) :
    ∃ x, doubleOf negative whole places 0 = .finite x ∧ n = .float x := by
  simp only [numberOf, Option.isNone_some, Bool.false_and, Bool.false_eq_true, if_false,
    Option.getD_some, Option.getD_none] at read
  split at read
  · rename_i x value
    exact ⟨x, value, (Option.some.inj read).symm⟩
  · contradiction

/-- A number with a fraction is loosely equal to the text of its digits, if they are few. -/
theorem numberOf_looseEq_text {n : Number} {s : String}
    (read : numberOf negative whole (some places) none = some n)
    (text : s.toList = (if negative then ['-'] else []) ++ (whole ++ '.' :: places))
    (digits : Numeral.Digits whole) (more : Numeral.Digits places) (there : whole ≠ [])
    (short : Nat.ofDigitChars 10 (whole ++ places) 0 ≤ Nat.pow 2 53) (near : places.length ≤ 22) :
    (Value.number n).looseEq (.string s) = true := by
  obtain ⟨x, value, rfl⟩ := numberOf_fraction read
  have numeric : ∀ c ∈ s.toList, Numeral.isNumeric c = true := by
    rw [text, List.forall_mem_append, List.forall_mem_append, List.forall_mem_cons]
    refine ⟨?_, digits.numeric, rfl, more.numeric⟩
    cases negative with
    | false => exact nofun
    | true => exact List.forall_mem_singleton.mpr rfl
  have nonempty : s.toList ≠ [] := by simp [text]
  have digit : ∀ c ∈ (whole ++ '.' :: places).head?, c.isDigit = true := by
    obtain ⟨d, ds, rfl⟩ := List.exists_cons_of_ne_nil there
    intro c first
    cases first
    exact digits d List.mem_cons_self
  have same : (Value.string s).toNumber = .finite x := by
    rw [Value.toNumber, Numeral.toNumber_of_numeric nonempty numeric, text, ofChars?_signed digit,
      doubleOf_eq_text digits more there short near, value, Option.getD_some]
  have leaf : Value.looseLeaf (.number (.float x)) (.string s) = true := by
    change (Double.finite x).isEqual (Value.string s).toNumber = true
    rw [same]
    exact beq_iff_eq.mpr (congrArg some x.order_self)
  rw [Value.looseEq, Value.agree_primitive rfl, leaf]
  rfl

end Json

end DataMatch
