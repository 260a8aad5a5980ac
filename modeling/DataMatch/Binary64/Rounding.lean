import DataMatch.Binary64.Basic

/-! Rounding a non-negative quotient to binary64: to nearest, a half going to the even neighbour,
and to infinity from the first magnitude that would need an exponent above 1023. -/
namespace DataMatch

def divRoundEven (num den : Nat) : Nat :=
  let q := num / den
  let r := num % den
  if 2 * r < den ∨ (2 * r = den ∧ q % 2 = 0) then q else q + 1

theorem divRoundEven_le (num den : Nat) : divRoundEven num den ≤ num / den + 1 := by
  simp only [divRoundEven]
  split <;> omega

namespace Binary64

/-- The binary exponent of the last place kept for a magnitude of `units`: 53 bits remain. -/
def lastPlace (units : Nat) : Nat := units.log2 - 52

def roundUnits (num den : Nat) : Nat :=
  let k := lastPlace (num / den)
  divRoundEven num (den * Nat.pow 2 k) * Nat.pow 2 k

theorem significand_lt (num den : Nat) :
    num / (den * Nat.pow 2 (lastPlace (num / den))) < Nat.pow 2 53 := by
  simp only [Nat.pow_eq]
  rw [← Nat.div_div_eq_div_mul, Nat.div_lt_iff_lt_mul (Nat.two_pow_pos _), ← Nat.pow_add]
  have h : num / den < 2 ^ ((num / den).log2 + 1) := Nat.lt_log2_self
  exact Nat.lt_of_lt_of_le h (Nat.pow_le_pow_right (by decide) (by unfold lastPlace; omega))

theorem roundUnits_eq_significand (num den : Nat) :
    ∃ m k, m < Nat.pow 2 53 ∧ roundUnits num den = m * Nat.pow 2 k := by
  let k := lastPlace (num / den)
  have hm := divRoundEven_le num (den * Nat.pow 2 k)
  have hq : num / (den * Nat.pow 2 k) < Nat.pow 2 53 := significand_lt num den
  by_cases h : divRoundEven num (den * Nat.pow 2 k) < Nat.pow 2 53
  · exact ⟨_, k, h, rfl⟩
  · refine ⟨Nat.pow 2 52, k + 1, by decide, ?_⟩
    have hn : divRoundEven num (den * Nat.pow 2 k) = Nat.pow 2 53 :=
      Nat.le_antisymm (Nat.le_trans hm hq) (Nat.le_of_not_lt h)
    show divRoundEven num (den * Nat.pow 2 k) * Nat.pow 2 k = _
    rw [hn]
    show Nat.pow 2 52 * 2 * Nat.pow 2 k = Nat.pow 2 52 * (Nat.pow 2 k * 2)
    rw [Nat.mul_assoc, Nat.mul_comm 2]

end Binary64

namespace Double

/-- The double nearest to `num / den` units of `2 ^ -1074`, with the given sign. -/
def ofUnitQuotient (negative : Bool) (num den : Nat) : Double :=
  if h : Binary64.roundUnits num den < Binary64.unitLimit then
    finite ⟨negative, Binary64.roundUnits num den, h, Binary64.roundUnits_eq_significand num den⟩
  else
    infinity negative

def ofQuotient (negative : Bool) (num den : Nat) : Double :=
  ofUnitQuotient negative (num * Binary64.unitsPerOne) den

def ofInt (n : Int) : Double := ofQuotient (n < 0) n.natAbs 1

end Double

end DataMatch
