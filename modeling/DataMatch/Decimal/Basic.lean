import DataMatch.Binary64.Rounding
import DataMatch.Text.Integer

/-! Decimal numbers: reading a numeral, the binary64 number nearest to one, and the texts of all
doubles. -/
namespace DataMatch

/-- The number `± coefficient * 10 ^ exponent`. -/
structure Decimal where
  negative : Bool
  coefficient : Nat
  exponent : Int
deriving DecidableEq, Repr

namespace Decimal

def readExponent : List Char → Option Int
  | [] => some 0
  | c :: cs => if c = 'e' ∨ c = 'E' then Text.readInteger cs else none

def readUnsigned (negative : Bool) (cs : List Char) : Option Decimal :=
  let whole := cs.takeWhile Char.isDigit
  let rest := cs.dropWhile Char.isDigit
  let fraction := match rest with
    | '.' :: tail => tail.takeWhile Char.isDigit
    | _ => []
  let rest := match rest with
    | '.' :: tail => tail.dropWhile Char.isDigit
    | _ => rest
  if whole = [] ∧ fraction = [] then
    none
  else
    (readExponent rest).map fun e =>
      ⟨negative, Nat.ofDigitChars 10 (whole ++ fraction) 0, e - fraction.length⟩

def ofChars? : List Char → Option Decimal
  | '+' :: cs => readUnsigned false cs
  | '-' :: cs => readUnsigned true cs
  | cs => readUnsigned false cs

/-- The decimal exponent of the first digit is below this for every finite double. -/
def largestMagnitude : Int := 310

/-- A first digit below this decimal exponent is less than half a unit. -/
def leastMagnitude : Int := -330

/-- The double nearest to a decimal. Exponents out of every double's reach are decided by the
position of the first digit, so no power of ten is computed for them. -/
def toDouble (d : Decimal) : Double :=
  let first : Int := (Text.decimalDigits d.coefficient).length + d.exponent
  if d.coefficient = 0 ∨ first < leastMagnitude then
    .finite ⟨d.negative, 0, Binary64.representable_zero⟩
  else if largestMagnitude < first then
    .infinity d.negative
  else if 0 ≤ d.exponent then
    Double.ofQuotient d.negative (d.coefficient * Nat.pow 10 d.exponent.toNat) 1
  else
    Double.ofQuotient d.negative d.coefficient (Nat.pow 10 (-d.exponent).toNat)

end Decimal

namespace Double

def ofWord? (negative : Bool) (cs : List Char) : Option Double :=
  let folded := cs.map Char.toLower
  if folded = "inf".toList ∨ folded = "infinity".toList then some (.infinity negative)
  else if folded = "nan".toList then some .nan
  else none

def ofUnsigned? (negative : Bool) (cs : List Char) : Option Double :=
  match Decimal.readUnsigned negative cs with
  | some d => some d.toDouble
  | none => ofWord? negative cs

def ofChars? : List Char → Option Double
  | '+' :: cs => ofUnsigned? false cs
  | '-' :: cs => ofUnsigned? true cs
  | cs => ofUnsigned? false cs

end Double

end DataMatch
