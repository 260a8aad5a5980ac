import DataMatch.Text.Bytes

/-! YAML: what can go wrong, places in the text, and the classes of characters that the rules speak
of. -/
namespace DataMatch.Yaml

inductive Problem where
  | encoding
  | forbiddenCharacter
  | badDirective
  | badAnchor
  | badTag
  | undefinedTagHandle
  | badBlockHeader
  | tabIndentation
  | badEscape
  | openQuote
  | markerInQuotes
  | colonInFlow
  | strayCharacter
  | keyWithoutValue
  | misplacedIndicator
  | unexpectedToken
  | undefinedAlias
  | duplicateKey
  | severalDocuments
  | tooDeep
  | tooManyAliases
  | tagMismatch
  | integerRange
deriving DecidableEq, Repr

def Problem.message : Problem → String
  | encoding => "the text is not UTF-8"
  | forbiddenCharacter => "control characters are not allowed"
  | badDirective => "found a bad directive"
  | badAnchor => "found a bad anchor"
  | badTag => "found a bad tag"
  | undefinedTagHandle => "found an undefined tag handle"
  | badBlockHeader => "found a bad block scalar header"
  | tabIndentation => "found a tab where indentation is expected"
  | badEscape => "found a bad escape"
  | openQuote => "found the end of the text inside quotes"
  | markerInQuotes => "found a document marker inside quotes"
  | colonInFlow => "found an unexpected colon"
  | strayCharacter => "found a character that cannot start any token"
  | keyWithoutValue => "could not find the colon after a key"
  | misplacedIndicator => "found an indicator that is not allowed here"
  | unexpectedToken => "found unexpected content"
  | undefinedAlias => "found an unknown anchor"
  | duplicateKey => "found a duplicate key"
  | severalDocuments => "found more than one document"
  | tooDeep => "found too many levels"
  | tooManyAliases => "found too many repetitions"
  | tagMismatch => "found a value that does not fit its tag"
  | integerRange => "found an integer out of range"

/-- A place in the text: characters from the start, the line, and the column, all from 0. -/
structure Position where
  index : Nat
  line : Nat
  column : Nat
deriving DecidableEq, Repr

namespace Position

def start : Position := ⟨0, 0, 0⟩

def advance (p : Position) (count : Nat) : Position :=
  ⟨p.index + count, p.line, p.column + count⟩

def next (p : Position) : Position := p.advance 1

def newline (p : Position) (width : Nat) : Position := ⟨p.index + width, p.line + 1, 0⟩

end Position

structure Cursor where
  pos : Position
  rest : List Char

def Cursor.advance (c : Cursor) (count : Nat) : Cursor := ⟨c.pos.advance count, c.rest.drop count⟩

def isBreak (c : Char) : Bool :=
  c == '\n' || c == '\r' || c == '\u0085' || c == '\u2028' || c == '\u2029'

/-- What a line break stands for in a scalar: the line and paragraph separators stay. -/
def normalBreak (c : Char) : Char := if c == '\u2028' || c == '\u2029' then c else '\n'

def isSpaceOrTab (c : Char) : Bool := c == ' ' || c == '\t'

def endsWord (cs : List Char) : Bool := cs.head?.all fun c => isSpaceOrTab c || isBreak c

def endsLine (cs : List Char) : Bool := cs.head?.all isBreak

def isNameChar (c : Char) : Bool := c.isAlphanum || c == '_' || c == '-'

def isMarker (c : Char) : List Char → Bool
  | c₁ :: c₂ :: c₃ :: rest => c₁ == c && c₂ == c && c₃ == c && endsWord rest
  | _ => false

def atMarker (p : Position) (cs : List Char) : Bool :=
  p.column == 0 && (isMarker '-' cs || isMarker '.' cs)

def skipComment (c : Cursor) : Cursor :=
  let blanks := (c.rest.takeWhile isSpaceOrTab).length
  let c := c.advance blanks
  if c.rest.head? = some '#' then
    c.advance (c.rest.takeWhile fun d => !isBreak d).length
  else c

def skipBreak (c : Cursor) : Cursor :=
  match c.rest with
  | '\r' :: '\n' :: rest => ⟨c.pos.newline 2, rest⟩
  | d :: rest => if isBreak d then ⟨c.pos.newline 1, rest⟩ else c
  | [] => c

end DataMatch.Yaml
