/-! Binary64 numbers held exactly. A finite one is a sign and a magnitude counted in units of
`2 ^ -1074`, the least positive magnitude, so two of them compare as integers. `Double` adds the
infinities and the value that is not a number. -/
namespace DataMatch

def Binary64.unitsPerOne : Nat := Nat.pow 2 1074

/-- The first magnitude past the largest finite one, `2 ^ 1024`, in units. -/
def Binary64.unitLimit : Nat := Nat.pow 2 2098

/-- A magnitude that binary64 can hold: at most 53 significant bits, below `2 ^ 1024`. -/
def Binary64.Representable (units : Nat) : Prop :=
  units < unitLimit ∧ ∃ m k, m < Nat.pow 2 53 ∧ units = m * Nat.pow 2 k

structure Binary64 where
  negative : Bool
  units : Nat
  representable : Binary64.Representable units
deriving DecidableEq

namespace Binary64

theorem pow_two_pos (n : Nat) : 0 < Nat.pow 2 n := Nat.two_pow_pos n

theorem unitLimit_pos : 0 < unitLimit := by
  unfold unitLimit
  generalize 2098 = n
  exact pow_two_pos n

theorem representable_zero : Representable 0 :=
  ⟨unitLimit_pos, 0, 0, by decide, by decide⟩

def zero : Binary64 := ⟨false, 0, representable_zero⟩

instance : Inhabited Binary64 := ⟨zero⟩

def signedUnits (x : Binary64) : Int :=
  if x.negative then -(x.units : Int) else (x.units : Int)

def order (x y : Binary64) : Ordering :=
  compare x.signedUnits y.signedUnits

end Binary64

inductive Double where
  | nan
  | infinity (negative : Bool)
  | finite (x : Binary64)
deriving DecidableEq

namespace Double

instance : Inhabited Double := ⟨nan⟩

/-- The partial order of doubles: nothing compares with `nan`, not even itself. -/
def order : Double → Double → Option Ordering
  | nan, _ => none
  | _, nan => none
  | infinity n, infinity m => some (compare m n)
  | infinity n, finite _ => some (if n then .lt else .gt)
  | finite _, infinity m => some (if m then .gt else .lt)
  | finite x, finite y => some (x.order y)

def isEqual (x y : Double) : Bool := order x y == some .eq

end Double

end DataMatch
