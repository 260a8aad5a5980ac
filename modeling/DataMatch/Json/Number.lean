import DataMatch.Value.Basic

/-! The number that the digits of a JSON text make. One that is not kept as an integer is a
significand of 64 bits scaled by a power of ten. Both are rounded before they are multiplied or
divided, so what is read may be a neighbour of the nearest double. -/
namespace DataMatch.Json

/-- Minus zero is no integer. -/
def integerRange (negative : Bool) (size : Nat) : Bool :=
  if negative then 0 < size && size ≤ Nat.pow 2 63 else size < Nat.pow 2 64

/-- Appends digits to a significand while it stays below `2 ^ 64`, and counts those left out. -/
def extendSignificand (significand : Nat) : List Char → Nat × Nat
  | [] => (significand, 0)
  | c :: cs =>
    let next := 10 * significand + (c.toNat - '0'.toNat)
    if next < Nat.pow 2 64 then extendSignificand next cs else (significand, cs.length + 1)

def largestPower : Nat := 308

def powerOfTen (n : Nat) : Nat := Binary64.roundUnits (Nat.pow 10 n * Binary64.unitsPerOne) 1

/-- One multiplication, or one division after as many by the largest power as it takes to bring the
exponent into reach. Zero stays zero under any exponent. -/
def scaleByTens (negative : Bool) (units : Nat) (exponent : Int) : Double :=
  if units = 0 then
    .finite ⟨negative, 0, Binary64.representable_zero⟩
  else if exponent.natAbs ≤ largestPower then
    if 0 ≤ exponent then
      Double.ofUnitQuotient negative (units * powerOfTen exponent.natAbs) Binary64.unitsPerOne
    else
      Double.ofUnitQuotient negative (units * Binary64.unitsPerOne) (powerOfTen exponent.natAbs)
  else if 0 ≤ exponent then
    .infinity negative
  else
    scaleByTens negative
      (Binary64.roundUnits (units * Binary64.unitsPerOne) (powerOfTen largestPower))
      (exponent + largestPower)
termination_by exponent.natAbs
decreasing_by simp only [largestPower] at *; omega

def doubleOf (negative : Bool) (whole places : List Char) (exponent : Int) : Double :=
  let (high, dropped) := extendSignificand 0 whole
  let (significand, unread) := extendSignificand high places
  scaleByTens negative (Binary64.roundUnits (significand * Binary64.unitsPerOne) 1)
    (exponent + dropped - (places.length - unread : Nat))

def numberOf (negative : Bool) (whole : List Char) (fraction : Option (List Char))
    (exponent : Option Int) : Option Number :=
  let size := Nat.ofDigitChars 10 whole 0
  if fraction.isNone && exponent.isNone && integerRange negative size then
    some (.int (if negative then -size else size))
  else
    match doubleOf negative whole (fraction.getD []) (exponent.getD 0) with
    | .finite x => some (.float x)
    | _ => none

end DataMatch.Json
