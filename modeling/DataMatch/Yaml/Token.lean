import DataMatch.Yaml.Scalar

/-! Tokens of YAML, and how those with a text of their own are read: directives, anchors and
tags. -/
namespace DataMatch.Yaml

inductive Token where
  | version (major minor : Nat)
  | tagHandle (handle : String) (replacement : Bytes)
  | documentStart
  | documentEnd
  | streamEnd
  | blockSequenceStart
  | blockMappingStart
  | blockEnd
  | blockEntry
  | flowSequenceStart
  | flowSequenceEnd
  | flowMappingStart
  | flowMappingEnd
  | flowEntry
  | key
  | value
  | alias (name : String)
  | anchor (name : String)
  | tag (handle : String) (suffix : Bytes)
  | scalar (text : String) (isPlain : Bool)
deriving DecidableEq, Repr

def takeChars (p : Char → Bool) (c : Cursor) : List Char × Cursor :=
  let taken := c.rest.takeWhile p
  (taken, c.advance taken.length)

def versionNumber (c : Cursor) : Except Problem (Nat × Cursor) :=
  let (digits, c) := takeChars Char.isDigit c
  if digits = [] ∨ 9 < digits.length then .error .badDirective
  else .ok (Nat.ofDigitChars 10 digits 0, c)

/-- A tag handle: `!`, a name and `!`. Without the second `!` it is no handle, which `strict`
allows for `!` alone. -/
def tagHandle (strict : Bool) (problem : Problem) (c : Cursor) :
    Except Problem (List Char × Cursor) := do
  if c.rest.head? ≠ some '!' then .error problem
  let (name, c) := takeChars isNameChar (c.advance 1)
  if c.rest.head? = some '!' then .ok ('!' :: name ++ ['!'], c.advance 1)
  else if strict && name ≠ [] then .error problem
  else .ok ('!' :: name, c)

def isTagChar (verbatim : Bool) (c : Char) : Bool :=
  isNameChar c || ";/?:@&=+$.%!~*'()".toList.contains c
    || (verbatim && (c == ',' || c == '[' || c == ']'))

def tagBytes : List Char → Option Bytes
  | [] => some []
  | '%' :: a :: b :: cs => do
    let high ← Text.hexDigit? a
    let low ← Text.hexDigit? b
    let rest ← tagBytes cs
    return (high * 16 + low).toUInt8 :: rest
  | c :: cs => if c = '%' then none else (tagBytes cs).map (c.toUInt8 :: ·)

def bytesAfter? (b : UInt8) : Option Nat :=
  if b < 0x80 then some 0
  else if b < 0xC0 then none
  else if b < 0xE0 then some 1
  else if b < 0xF0 then some 2
  else if b < 0xF8 then some 3
  else none

/-- Whether bytes come in the groups that their first bytes call for, when `missing` bytes of a group
are still to come. UTF-8 does, and so do some bytes that are not UTF-8. -/
def isGrouped : Nat → Bytes → Bool
  | missing, [] => missing == 0
  | 0, b :: bs =>
    match bytesAfter? b with
    | some n => isGrouped n bs
    | none => false
  | missing + 1, b :: bs => (0x80 ≤ b && b < 0xC0) && isGrouped missing bs

def tagSuffix (verbatim : Bool) (problem : Problem) (head : List Char) (c : Cursor) :
    Except Problem (Bytes × Cursor) :=
  let (chars, after) := takeChars (isTagChar verbatim) c
  if head = [] ∧ chars = [] then .error problem
  else
    match tagBytes (head.drop 1 ++ chars) with
    | some bytes =>
      if isGrouped 0 bytes then .ok (bytes.takeWhile (· ≠ 0), after) else .error problem
    | none => .error problem

def versionDirective (c : Cursor) : Except Problem (Token × Cursor) := do
  let (_, c) := takeChars isSpaceOrTab c
  let (major, c) ← versionNumber c
  if c.rest.head? ≠ some '.' then .error .badDirective
  let (minor, c) ← versionNumber (c.advance 1)
  return (.version major minor, c)

def tagDirective (c : Cursor) : Except Problem (Token × Cursor) := do
  let (_, c) := takeChars isSpaceOrTab c
  let (handle, c) ← tagHandle true .badDirective c
  if !c.rest.head?.any isSpaceOrTab then .error .badDirective
  let (_, c) := takeChars isSpaceOrTab c
  let (replacement, c) ← tagSuffix true .badDirective [] c
  if !endsWord c.rest then .error .badDirective
  return (.tagHandle (String.ofList handle) replacement, c)

def directive (c : Cursor) : Except Problem (Token × Cursor) := do
  let (name, c) := takeChars isNameChar c
  if name = [] || !endsWord c.rest then .error .badDirective
  let (token, c) ←
    if name = "YAML".toList then versionDirective c
    else if name = "TAG".toList then tagDirective c
    else .error .badDirective
  let c := skipComment c
  if !endsLine c.rest then .error .badDirective
  return (token, skipBreak c)

def anchorName (c : Cursor) : Except Problem (String × Cursor) :=
  let (name, c) := takeChars isNameChar c
  if name = [] || !(endsWord c.rest || c.rest.head?.any ("?:,]\x7d%@`".toList.contains ·)) then
    .error .badAnchor
  else
    .ok (String.ofList name, c)

def shorthandTag (c : Cursor) : Except Problem (Token × Cursor) := do
  let (handle, c) ← tagHandle false .badTag c
  if 2 ≤ handle.length && handle.getLast? = some '!' then
    let (suffix, c) ← tagSuffix false .badTag [] c
    return (.tag (String.ofList handle) suffix, c)
  else
    let (suffix, c) ← tagSuffix false .badTag handle c
    return (if suffix = [] then .tag "" (Text.toBytes "!") else .tag "!" suffix, c)

def verbatimTag (c : Cursor) : Except Problem (Token × Cursor) := do
  let (suffix, c) ← tagSuffix true .badTag [] c
  if c.rest.head? ≠ some '>' then .error .badTag
  return (.tag "" suffix, c.advance 1)

/-- A tag, at its `!`. White space has to follow, or a comma in a flow collection. -/
def tagToken (flow : Bool) (c : Cursor) : Except Problem (Token × Cursor) := do
  let (token, c) ←
    if (c.rest.drop 1).head? = some '<' then verbatimTag (c.advance 2) else shorthandTag c
  if endsWord c.rest || (flow && c.rest.head? = some ',') then return (token, c)
  else .error .badTag

end DataMatch.Yaml
