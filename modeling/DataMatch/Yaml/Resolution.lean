import DataMatch.Yaml.Tree

/-! What the text of a scalar stands for: null, a boolean, a number, or itself. -/
namespace DataMatch.Yaml

def isNullText (s : String) : Bool := ["null", "Null", "NULL", "~"].contains s

def boolOf? (s : String) : Option Bool :=
  [("true", true), ("True", true), ("TRUE", true), ("false", false), ("False", false),
    ("FALSE", false)].lookup s

def radixDigits (base : Nat) (cs : List Char) : Option Nat := do
  let digits ← cs.mapM Text.hexDigit?
  guard (digits ≠ [] ∧ digits.all (· < base))
  return digits.foldl (fun n d => n * base + d) 0

def unsignedOf? : List Char → Option Nat
  | '0' :: 'x' :: cs => radixDigits 16 cs
  | '0' :: 'o' :: cs => radixDigits 8 cs
  | '0' :: 'b' :: cs => radixDigits 2 cs
  | cs => radixDigits 10 cs

def withoutSign : List Char → List Char
  | '+' :: cs => cs
  | '-' :: cs => cs
  | cs => cs

/-- Decimal digits with a zero in front are text. -/
def hasLeadingZero (cs : List Char) : Bool :=
  let digits := withoutSign cs
  2 ≤ digits.length && digits.head? == some '0' && digits.all Char.isDigit

def integerOf? (cs : List Char) : Option Int :=
  if hasLeadingZero cs then none
  else
    match cs with
    | '+' :: cs => (unsignedOf? cs).map Int.ofNat
    | '-' :: cs => (unsignedOf? cs).map fun n => -(n : Int)
    | cs => (unsignedOf? cs).map Int.ofNat

/-- An integer of a scalar: 64 bits are kept, up to 128 bits are refused, and larger ones are no
integers. -/
def intTree? (cs : List Char) : Option (Except Problem Tree) :=
  (integerOf? cs).bind fun n =>
    if -(Nat.pow 2 63 : Nat) ≤ n ∧ n < (Nat.pow 2 64 : Nat) then some (.ok (.int n))
    else if -(Nat.pow 2 127 : Nat) ≤ n ∧ n < (Nat.pow 2 128 : Nat) then some (.error .integerRange)
    else none

def infinityTexts : List String := [".inf", ".Inf", ".INF"]

def nanTexts : List String := [".nan", ".NaN", ".NAN"]

/-- The double that a scalar stands for. A numeral beyond every finite double is text. -/
def floatOf? (s : String) : Option Double :=
  let cs := s.toList
  let unsigned := withoutSign cs
  if infinityTexts.contains (String.ofList unsigned) then some (.infinity (cs.head? == some '-'))
  else if nanTexts.contains s then some .nan
  else
    match Decimal.ofChars? cs with
    | some d =>
      match d.toDouble with
      | .finite x => some (.finite x)
      | _ => none
    | none => none

def plainTree (s : String) : Except Problem Tree :=
  if s = "" ∨ isNullText s then .ok .null
  else
    match boolOf? s with
    | some b => .ok (.bool b)
    | none =>
      match intTree? s.toList with
      | some result => result
      | none =>
        match if hasLeadingZero s.toList then none else floatOf? s with
        | some x => .ok (.float x)
        | none => .ok (.string s)

def untaggedTree (s : String) (isPlain : Bool) : Except Problem Tree :=
  if isPlain then plainTree s else .ok (.string s)

def orMismatch : Option Tree → Except Problem Tree
  | some t => .ok t
  | none => .error .tagMismatch

def withoutBang : List Char → List Char
  | '!' :: c :: cs => c :: cs
  | cs => cs

def isLocalTag (tag : Bytes) : Bool := tag.head?.any (Text.isByte · '!')

/-- The name in a tag of the document's own. One `!` or two in front of something do not count, and
`!` alone is a name. A tag that is not UTF-8 has no name. -/
def localTag? (tag : Bytes) : Option String := do
  guard (isLocalTag tag)
  let s ← Text.ofBytes? tag
  return String.ofList (withoutBang (withoutBang s.toList))

def boolTag : Bytes := Text.toBytes "tag:yaml.org,2002:bool"

def intTag : Bytes := Text.toBytes "tag:yaml.org,2002:int"

def floatTag : Bytes := Text.toBytes "tag:yaml.org,2002:float"

def nullTag : Bytes := Text.toBytes "tag:yaml.org,2002:null"

/-- What a scalar with a tag stands for. Standard tags ask for one kind of data, other tags that are
not the document's own make it text. -/
def taggedScalarTree (s : String) (isPlain : Bool) (tag : Bytes) : Except Problem Tree :=
  if tag = boolTag then orMismatch ((boolOf? s).map .bool)
  else if tag = intTag then (intTree? s.toList).getD (.error .tagMismatch)
  else if tag = floatTag then orMismatch ((floatOf? s).map .float)
  else if tag = nullTag then orMismatch (if isNullText s then some .null else none)
  else if isLocalTag tag then
    match localTag? tag with
    | some name => (untaggedTree s isPlain).map (.tagged name)
    | none => untaggedTree s isPlain
  else .ok (.string s)

def scalarTree (s : String) (isPlain : Bool) (tag : Option Bytes) : Except Problem Tree :=
  match tag with
  | none => untaggedTree s isPlain
  | some tag => taggedScalarTree s isPlain tag

def taggedTree (tag : Option Bytes) (content : Tree) : Tree :=
  match tag.bind localTag? with
  | some name => .tagged name content
  | none => content

end DataMatch.Yaml
