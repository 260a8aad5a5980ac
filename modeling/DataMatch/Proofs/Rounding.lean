import DataMatch.Binary64.Rounding

/-! When rounding to a double changes nothing: what 53 bits in front of a power of two can hold
stays as it is, and a quotient is rounded the same in any terms. -/
namespace DataMatch

variable {n t num den c : Nat}

theorem divRoundEven_mul {d : Nat} (positive : 0 < d) : divRoundEven (n * d) d = n := by
  simp [divRoundEven, Nat.mul_div_cancel n positive, positive]

theorem divRoundEven_scale (positive : 0 < c) :
    divRoundEven (num * c) (den * c) = divRoundEven num den := by
  have twice : 2 * (num % den * c) = 2 * (num % den) * c := by rw [Nat.mul_assoc]
  simp only [divRoundEven, Nat.mul_div_mul_right _ _ positive, Nat.mul_mod_mul_right, twice,
    Nat.mul_lt_mul_right positive, Nat.mul_right_cancel_iff positive]

theorem Binary64.roundUnits_scale (positive : 0 < c) :
    roundUnits (num * c) (den * c) = roundUnits num den := by
  have place (k : Nat) : den * c * Nat.pow 2 k = den * Nat.pow 2 k * c := Nat.mul_right_comm _ _ _
  simp only [roundUnits, Nat.mul_div_mul_right _ _ positive, place, divRoundEven_scale positive]

theorem Double.ofUnitQuotient_scale (positive : 0 < c) (negative : Bool) :
    ofUnitQuotient negative (num * c) (den * c) = ofUnitQuotient negative num den := by
  simp only [ofUnitQuotient, Binary64.roundUnits_scale positive]

theorem Binary64.roundUnits_of_dvd (exact : Nat.pow 2 (lastPlace n) ∣ n) : roundUnits n 1 = n := by
  obtain ⟨m, same⟩ := exact
  have product : m * Nat.pow 2 (lastPlace n) = n := by rw [Nat.mul_comm, ← same]
  rw [roundUnits, Nat.div_one, Nat.one_mul]
  calc divRoundEven n (Nat.pow 2 (lastPlace n)) * Nat.pow 2 (lastPlace n)
      = divRoundEven (m * Nat.pow 2 (lastPlace n)) (Nat.pow 2 (lastPlace n)) *
          Nat.pow 2 (lastPlace n) := by rw [product]
    _ = m * Nat.pow 2 (lastPlace n) := by rw [divRoundEven_mul (pow_two_pos _)]
    _ = n := product

theorem Binary64.lastPlace_dvd (small : n ≤ Nat.pow 2 53) :
    Nat.pow 2 (lastPlace (n * Nat.pow 2 t)) ∣ n * Nat.pow 2 t := by
  rcases Nat.lt_or_eq_of_le small with below | rfl
  · by_cases zero : n * Nat.pow 2 t = 0
    · rw [zero]
      exact Nat.dvd_zero _
    · have bound : n * Nat.pow 2 t < 2 ^ (53 + t) := by
        rw [Nat.pow_add]
        exact Nat.mul_lt_mul_of_pos_right below (pow_two_pos t)
      have places : lastPlace (n * Nat.pow 2 t) ≤ t := by
        have logarithm := (Nat.log2_lt zero).mpr bound
        unfold lastPlace
        omega
      exact Nat.dvd_mul_left_of_dvd (Nat.pow_dvd_pow 2 places) n
  · have power : Nat.pow 2 53 * Nat.pow 2 t = 2 ^ (53 + t) := (Nat.pow_add 2 53 t).symm
    rw [power, lastPlace, Nat.log2_two_pow]
    exact Nat.pow_dvd_pow 2 (by omega)

/-- The unit and the limit are powers of two with room for 53 digits in between. -/
theorem Binary64.exists_exponents :
    ∃ t limit, unitsPerOne = Nat.pow 2 t ∧ unitLimit = Nat.pow 2 limit ∧ 53 + t < limit := by
  refine ⟨1074, 2098, ?_, ?_, by decide⟩
  · unfold unitsPerOne
    generalize 1074 = t
    rfl
  · unfold unitLimit
    generalize 2098 = limit
    rfl

theorem Binary64.roundUnits_small (small : n ≤ Nat.pow 2 53) :
    roundUnits (n * unitsPerOne) 1 = n * unitsPerOne ∧ n * unitsPerOne < unitLimit := by
  obtain ⟨t, limit, unit, bound, room⟩ := exists_exponents
  rw [unit, bound]
  refine ⟨roundUnits_of_dvd (lastPlace_dvd small), ?_⟩
  calc n * Nat.pow 2 t ≤ Nat.pow 2 53 * Nat.pow 2 t := Nat.mul_le_mul_right _ small
    _ = 2 ^ (53 + t) := (Nat.pow_add 2 53 t).symm
    _ < 2 ^ limit := Nat.pow_lt_pow_right (by decide) room

theorem Double.ofUnitQuotient_of_lt {negative : Bool} {num den : Nat}
    (held : Binary64.roundUnits num den < Binary64.unitLimit) :
    ofUnitQuotient negative num den =
      .finite ⟨negative, Binary64.roundUnits num den, held,
        Binary64.roundUnits_eq_significand num den⟩ := by
  rw [ofUnitQuotient, dif_pos held]

theorem Double.ofInt_exact {n : Int} (small : n.natAbs ≤ Nat.pow 2 53) :
    ∃ x, ofInt n = .finite x ∧ x.signedUnits = n * Binary64.unitsPerOne := by
  obtain ⟨units, below⟩ := Binary64.roundUnits_small small
  have held : Binary64.roundUnits (n.natAbs * Binary64.unitsPerOne) 1 < Binary64.unitLimit := by
    rw [units]
    exact below
  rw [ofInt, ofQuotient, ofUnitQuotient_of_lt held]
  refine ⟨_, rfl, ?_⟩
  simp only [Binary64.signedUnits, units, decide_eq_true_eq, Int.natCast_mul]
  split
  · rw [← Int.neg_mul, Int.ofNat_natAbs_of_nonpos (by omega), Int.neg_neg]
  · rw [Int.natAbs_of_nonneg (by omega)]

end DataMatch
