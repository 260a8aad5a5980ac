import DataMatch.Yaml.Basic

/-! From bytes to characters: a document is UTF-8, and control characters are refused. A byte order
mark is a character like others here; the scanner skips it where a line begins. -/
namespace DataMatch.Yaml

def isAllowed (c : Char) : Bool :=
  let n := c.toNat
  n == 0x9 || n == 0xA || n == 0xD || (0x20 ≤ n && n ≤ 0x7E) || n == 0x85
    || (0xA0 ≤ n && n ≤ 0xD7FF) || (0xE000 ≤ n && n ≤ 0xFFFD) || 0x10000 ≤ n

def characters (bytes : Bytes) : Except Problem (List Char) :=
  match Text.ofBytes? bytes with
  | none => .error .encoding
  | some s => if s.toList.all isAllowed then .ok s.toList else .error .forbiddenCharacter

end DataMatch.Yaml
