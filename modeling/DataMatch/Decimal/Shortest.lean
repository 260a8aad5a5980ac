import DataMatch.Decimal.Basic

/-! The shortest decimal that reads back as a given binary64 number, and of those of equal length
the nearest one. For 1, 2, … 17 digits the two neighbours of the number on that decimal grid are
tried; the first grid with a hit gives the result. -/
namespace DataMatch.Decimal

/-- The magnitudes that round to one binary64 magnitude, counted in half units. The ends belong to
it exactly when the last significant bit is 0, because a half goes to the even neighbour. -/
structure RoundingInterval where
  low : Nat
  high : Nat
  closed : Bool

def RoundingInterval.ofUnits (units : Nat) : RoundingInterval :=
  let gap := Nat.pow 2 (Binary64.lastPlace units)
  let below := if units = Nat.pow 2 52 * gap ∧ 1 < gap then gap / 2 else gap
  ⟨2 * units - below, 2 * units + gap, units / gap % 2 = 0⟩

/-- A decimal grid of step `10 ^ exponent`, with the step as a quotient of half units. -/
structure Grid where
  exponent : Int

def Grid.num (g : Grid) : Nat :=
  2 * Binary64.unitsPerOne * Nat.pow 10 g.exponent.toNat

def Grid.den (g : Grid) : Nat := Nat.pow 10 (-g.exponent).toNat

def Grid.hits (g : Grid) (i : RoundingInterval) (count : Nat) : Bool :=
  let point := count * g.num
  if i.closed then i.low * g.den ≤ point && point ≤ i.high * g.den
  else i.low * g.den < point && point < i.high * g.den

/-- The neighbour of `units` on the grid that reads back, the nearer one if both do; at equal
distance the even one. -/
def Grid.nearest? (g : Grid) (units : Nat) : Option Nat :=
  let i := RoundingInterval.ofUnits units
  let point := 2 * units * g.den
  let below := point / g.num
  let above := below + 1
  match g.hits i below, g.hits i above with
  | true, true =>
    let toBelow := point - below * g.num
    let toAbove := above * g.num - point
    if toBelow < toAbove ∨ (toBelow = toAbove ∧ below % 2 = 0) then some below else some above
  | true, false => some below
  | false, true => some above
  | false, false => none

def firstDigitExponent (units : Nat) : Int :=
  (Text.decimalDigits (units * Nat.pow 10 400 / Binary64.unitsPerOne)).length - 401

def stripZeros : Nat → Nat → Int → Nat × Int
  | 0, c, e => (c, e)
  | fuel + 1, c, e => if c % 10 = 0 then stripZeros fuel (c / 10) (e + 1) else (c, e)

/-- The shortest decimal that reads back as `x`. Seventeen digits always suffice. -/
def shortest (x : Binary64) : Decimal :=
  if x.units = 0 then
    ⟨x.negative, 0, 0⟩
  else
    let first := firstDigitExponent x.units
    let found := (List.range 17).findSome? fun (i : Nat) =>
      let g : Grid := ⟨first - i⟩
      (g.nearest? x.units).map fun count => stripZeros 18 count g.exponent
    let (coefficient, exponent) := found.getD (0, 0)
    ⟨x.negative, coefficient, exponent⟩

end DataMatch.Decimal
