import DataMatch.Text.Blank

/-! Integers in text: ASCII digits with an optional sign, and nothing else. -/
namespace DataMatch.Text

def readDigits (cs : List Char) : Option Nat :=
  if cs ≠ [] ∧ cs.all Char.isDigit then some (Nat.ofDigitChars 10 cs 0) else none

def readNatural : List Char → Option Nat
  | '+' :: cs => readDigits cs
  | cs => readDigits cs

def readInteger : List Char → Option Int
  | '+' :: cs => (readDigits cs).map Int.ofNat
  | '-' :: cs => (readDigits cs).map fun n => -(n : Int)
  | cs => (readDigits cs).map Int.ofNat

def decimalDigits (n : Nat) : List Char := Nat.toDigits 10 n

end DataMatch.Text
