import DataMatch.Decimal.Shortest

/-! The text of a double: which exponents are written out in full, and how the others are marked. -/
namespace DataMatch.Decimal

/-- The exponents of the first digit that are written without an exponent mark: from
`leastPositional`, and below `firstMarked`. -/
structure Layout where
  leastPositional : Int
  firstMarked : Int

def positional (digits : List Char) (exponent : Int) : List Char :=
  if exponent < 0 then
    ['0', '.'] ++ List.replicate (-exponent - 1).toNat '0' ++ digits
  else
    let whole := exponent.toNat + 1
    if digits.length ≤ whole then
      digits ++ List.replicate (whole - digits.length) '0' ++ ['.', '0']
    else
      digits.take whole ++ '.' :: digits.drop whole

def marked (digits : List Char) (exponent : Int) : List Char :=
  let fraction := match digits.drop 1 with
    | [] => []
    | rest => '.' :: rest
  let sign := if exponent < 0 then '-' else '+'
  digits.take 1 ++ fraction ++ 'e' :: sign :: Text.decimalDigits exponent.natAbs

def Layout.chars (l : Layout) (d : Decimal) : List Char :=
  let digits := Text.decimalDigits d.coefficient
  let exponent := d.exponent + digits.length - 1
  let body :=
    if d.coefficient = 0 then ['0', '.', '0']
    else if l.leastPositional ≤ exponent ∧ exponent < l.firstMarked then positional digits exponent
    else marked digits exponent
  if d.negative then '-' :: body else body

end DataMatch.Decimal

namespace DataMatch

/-- Doubles are positional from `0.00001` to below `10 ^ 16`. -/
def Double.layout : Decimal.Layout := ⟨-5, 16⟩

def Binary64.text (x : Binary64) : String :=
  String.ofList (Double.layout.chars (Decimal.shortest x))

def Double.text : Double → String
  | .nan => "NaN"
  | .infinity negative => if negative then "-Infinity" else "Infinity"
  | .finite x => x.text

end DataMatch
