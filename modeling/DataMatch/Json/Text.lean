import DataMatch.Decimal.Layout
import DataMatch.Value.Basic

/-! The compact JSON text of a value: no blanks, members in order, and only the characters that JSON
does not allow raw are escaped. -/
namespace DataMatch

namespace Json

def hexByte (n : Nat) : List Char := [Nat.digitChar (n / 16 % 16), Nat.digitChar (n % 16)]

def escapeChar (c : Char) : List Char :=
  if c = '"' then ['\\', '"']
  else if c = '\\' then ['\\', '\\']
  else if c = '\x08' then ['\\', 'b']
  else if c = '\t' then ['\\', 't']
  else if c = '\n' then ['\\', 'n']
  else if c = '\x0c' then ['\\', 'f']
  else if c = '\r' then ['\\', 'r']
  else if c.toNat < 0x20 then '\\' :: 'u' :: '0' :: '0' :: hexByte c.toNat
  else [c]

def quote (s : String) : String :=
  String.ofList ('"' :: s.toList.flatMap escapeChar ++ ['"'])

end Json

def Number.text : Number → String
  | int n => toString n
  | float x => x.text

namespace Value

mutual

def text : Value → String
  | null => "null"
  | bool b => if b then "true" else "false"
  | number n => n.text
  | string s => Json.quote s
  | array items => "[" ++ ",".intercalate (itemTexts items) ++ "]"
  | object members => "\x7b" ++ ",".intercalate (memberTexts members) ++ "\x7d"

def itemTexts : List Value → List String
  | [] => []
  | v :: rest => text v :: itemTexts rest

def memberTexts : List (String × Value) → List String
  | [] => []
  | (key, v) :: rest => (Json.quote key ++ ":" ++ text v) :: memberTexts rest

end

end Value

end DataMatch
