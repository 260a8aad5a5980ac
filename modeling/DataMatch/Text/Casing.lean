import DataMatch.Text.Table.Casing

/-! Full case conversion of text: some characters become several, and a capital sigma at the end of
a word has a lower-case form of its own. -/
namespace DataMatch.Text

def isCased (c : Char) : Bool := inRanges Table.cased c

def isCaseIgnorable (c : Char) : Bool := inRanges Table.caseIgnorable c

def meetsCased (cs : List Char) : Bool :=
  (cs.dropWhile isCaseIgnorable).head?.any isCased

/-- The lower-case form of a capital sigma between the characters before it, nearest first, and
those after it: final at the end of a word. -/
def lowerSigma (before after : List Char) : Char :=
  if meetsCased before && !meetsCased after then 'ς' else 'σ'

def lowerChars (before : List Char) : List Char → List Char
  | [] => []
  | c :: cs =>
    (if c = 'Σ' then [lowerSigma before cs]
      else if c.toNat < 0x80 then [c.toLower]
      else mapCase Table.lowercase Table.longLowercase c) ++ lowerChars (c :: before) cs

def lowercase (s : String) : String := String.ofList (lowerChars [] s.toList)

def upperChar (c : Char) : List Char :=
  if c.toNat < 0x80 then [c.toUpper] else mapCase Table.uppercase Table.longUppercase c

def uppercase (s : String) : String := String.ofList (s.toList.flatMap upperChar)

end DataMatch.Text
