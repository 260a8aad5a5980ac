/-! Bytes and the ASCII characters they stand for, and text as UTF-8. -/
namespace DataMatch

abbrev Bytes := List UInt8

namespace Text

def isByte (b : UInt8) (c : Char) : Bool := b == c.toUInt8

def hexDigit? (c : Char) : Option Nat :=
  if '0' ≤ c ∧ c ≤ '9' then some (c.toNat - 48)
  else if 'a' ≤ c ∧ c ≤ 'f' then some (c.toNat - 87)
  else if 'A' ≤ c ∧ c ≤ 'F' then some (c.toNat - 55)
  else none

def toBytes (s : String) : Bytes := s.toUTF8.toList

def ofBytes? (bytes : Bytes) : Option String := String.fromUTF8? ⟨bytes.toArray⟩

end Text

end DataMatch
