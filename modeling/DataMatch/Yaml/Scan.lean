import DataMatch.Yaml.Token

/-! From characters to tokens. Indentation becomes tokens that begin and end blocks, and a key is
found when its colon comes: its token is then put in front of what the key begins with. -/
namespace DataMatch.Yaml

structure KeyStart where
  /-- Whether a key has to stand there, because the column is that of the block. -/
  required : Bool
  number : Nat
  pos : Position

structure Scanner where
  cursor : Cursor
  tokens : List Token
  count : Nat
  keyAllowed : Bool
  /-- The column of the innermost block, and those around it; -1 outside all blocks. -/
  indent : Int
  indents : List Int
  /-- The key that may have begun in each collection, the innermost first. The last entry is for
  what stands outside flow collections. -/
  keys : List (Option KeyStart)

namespace Scanner

def ofChars (cs : List Char) : Scanner := ⟨⟨.start, cs⟩, [], 0, true, -1, [], [none]⟩

def inFlow (s : Scanner) : Bool := 1 < s.keys.length

def emit (s : Scanner) (t : Token) : Scanner :=
  { s with tokens := t :: s.tokens, count := s.count + 1 }

def insertAt (s : Scanner) (number : Nat) (t : Token) : Scanner :=
  let later := s.count - number
  { s with tokens := s.tokens.take later ++ t :: s.tokens.drop later, count := s.count + 1 }

def moveTo (s : Scanner) (c : Cursor) : Scanner := { s with cursor := c }

def skip (s : Scanner) (count : Nat) : Scanner := s.moveTo (s.cursor.advance count)

def allowKey (s : Scanner) (allowed : Bool) : Scanner := { s with keyAllowed := allowed }

def dropKey (s : Scanner) : Except Problem Scanner :=
  match s.keys with
  | some key :: rest =>
    if key.required then .error .keyWithoutValue else .ok { s with keys := none :: rest }
  | _ => .ok s

def noteKey (s : Scanner) : Except Problem Scanner := do
  if s.keyAllowed then
    let s ← s.dropKey
    let key : KeyStart :=
      ⟨!s.inFlow && s.indent == s.cursor.pos.column, s.count, s.cursor.pos⟩
    return { s with keys := some key :: s.keys.drop 1 }
  else
    return s

/-- Gives up a key that is on an earlier line or more than 1024 characters back. -/
def freshKey (p : Position) : Option KeyStart → Except Problem (Option KeyStart)
  | none => .ok none
  | some key =>
    if key.pos.line < p.line || key.pos.index + 1024 < p.index then
      if key.required then .error .keyWithoutValue else .ok none
    else .ok (some key)

def dropStaleKeys (s : Scanner) : Except Problem Scanner := do
  return { s with keys := ← s.keys.mapM (freshKey s.cursor.pos) }

def closeBlocks (column : Int) (s : Scanner) : List Int → Scanner
  | [] => { s with indents := [] }
  | outer :: rest =>
    if column < s.indent then
      closeBlocks column { s.emit .blockEnd with indent := outer } rest
    else { s with indents := outer :: rest }

def closeTo (s : Scanner) (column : Int) : Scanner :=
  if s.inFlow then s else closeBlocks column s s.indents

/-- Begins a block at a column, unless the innermost one is there already. Its token goes in front
of all but the first `number` tokens. -/
def openTo (s : Scanner) (column : Nat) (number : Nat) (t : Token) : Scanner :=
  if s.inFlow || column ≤ s.indent then s
  else
    { s.insertAt number t with indents := s.indent :: s.indents, indent := column }

/-- White space, comments and line breaks before a token. Outside flow collections a new line may
begin with a key, and a tab may not stand where a key may. A byte order mark that begins a line is
skipped and takes up a column. -/
def skipToToken (flow allowed comment : Bool) (p : Position) : List Char → Bool × Cursor
  | [] => (allowed, ⟨p, []⟩)
  | '\r' :: '\n' :: cs => skipToToken flow (allowed || !flow) false (p.newline 2) cs
  | c :: cs =>
    if isBreak c then skipToToken flow (allowed || !flow) false (p.newline 1) cs
    else if comment then skipToToken flow allowed true p.next cs
    else if c == ' ' || (c == '\t' && (flow || !allowed)) || (c == '\ufeff' && p.column == 0) then
      skipToToken flow allowed false p.next cs
    else if c == '#' then skipToToken flow allowed true p.next cs
    else (allowed, ⟨p, c :: cs⟩)

def atToken (s : Scanner) : Except Problem Scanner := do
  let (allowed, cursor) :=
    skipToToken s.inFlow s.keyAllowed false s.cursor.pos s.cursor.rest
  let s ← ((s.moveTo cursor).allowKey allowed).dropStaleKeys
  return s.closeTo cursor.pos.column

def leaveBlocks (s : Scanner) : Except Problem Scanner := do
  return (← (s.closeTo (-1)).dropKey).allowKey false

def takeEnd (s : Scanner) : Except Problem Scanner := do
  return (← s.leaveBlocks).emit .streamEnd

def takeDirective (s : Scanner) : Except Problem Scanner := do
  let s ← s.leaveBlocks
  let (token, cursor) ← directive (s.cursor.advance 1)
  return (s.moveTo cursor).emit token

def takeMarker (s : Scanner) (t : Token) : Except Problem Scanner := do
  return ((← s.leaveBlocks).skip 3).emit t

def takeFlowStart (s : Scanner) (t : Token) : Except Problem Scanner := do
  let s ← s.noteKey
  return (({ s with keys := none :: s.keys }.allowKey true).skip 1).emit t

def takeFlowEnd (s : Scanner) (t : Token) : Except Problem Scanner := do
  let s ← s.dropKey
  let keys := if s.inFlow then s.keys.drop 1 else s.keys
  return (({ s with keys := keys }.allowKey false).skip 1).emit t

def takeFlowEntry (s : Scanner) : Except Problem Scanner := do
  return (((← s.dropKey).allowKey true).skip 1).emit .flowEntry

def takeBlockEntry (s : Scanner) : Except Problem Scanner := do
  if !s.inFlow && !s.keyAllowed then .error .misplacedIndicator
  let s := s.openTo s.cursor.pos.column s.count .blockSequenceStart
  return (((← s.dropKey).allowKey true).skip 1).emit .blockEntry

def takeKey (s : Scanner) : Except Problem Scanner := do
  if !s.inFlow && !s.keyAllowed then .error .misplacedIndicator
  let s := s.openTo s.cursor.pos.column s.count .blockMappingStart
  return (((← s.dropKey).allowKey (!s.inFlow)).skip 1).emit .key

def takeValue (s : Scanner) : Except Problem Scanner := do
  match s.keys with
  | some key :: rest =>
    let s := (s.insertAt key.number .key).openTo key.pos.column key.number .blockMappingStart
    return (({ s with keys := none :: rest }.allowKey false).skip 1).emit .value
  | _ =>
    if !s.inFlow && !s.keyAllowed then .error .misplacedIndicator
    let s := s.openTo s.cursor.pos.column s.count .blockMappingStart
    return ((s.allowKey (!s.inFlow)).skip 1).emit .value

def takeWith (s : Scanner) (read : Cursor → Except Problem (Token × Cursor)) :
    Except Problem Scanner := do
  let s := (← s.noteKey).allowKey false
  let (token, cursor) ← read s.cursor
  return (s.moveTo cursor).emit token

def takeQuoted (s : Scanner)
    (read : List Char → Option Gap → Position → List Char → Except Problem ScalarText) :
    Except Problem Scanner :=
  s.takeWith fun c => do
    let t ← read [] none c.pos.next (c.rest.drop 1)
    return (.scalar (String.ofList t.text) false, t.cursor)

def takeBlockScalar (s : Scanner) (literal : Bool) : Except Problem Scanner := do
  let s := (← s.dropKey).allowKey true
  let t ← blockScalar literal s.indent (s.cursor.advance 1)
  return (s.moveTo t.cursor).emit (.scalar (String.ofList t.text) false)

def takePlain (s : Scanner) : Except Problem Scanner := do
  let s := (← s.noteKey).allowKey false
  let t ← plain s.inFlow (s.indent + 1) [] none s.cursor.pos s.cursor.rest
  return ((s.moveTo t.cursor).allowKey t.broken).emit (.scalar (String.ofList t.text) true)

def isIndicator (c : Char) : Bool :=
  isFlowIndicator c || "-?:#&*!|>'\"%@`".toList.contains c

def startsPlain (flow : Bool) (c : Char) (cs : List Char) : Bool :=
  !isIndicator c && !isSpaceOrTab c
    || (c == '-' && !cs.head?.any isSpaceOrTab)
    || (!flow && (c == '?' || c == ':') && !endsWord cs)

def takeToken (s : Scanner) (c : Char) (cs : List Char) : Except Problem Scanner :=
  let word := endsWord cs
  if s.cursor.pos.column = 0 ∧ c = '%' then s.takeDirective
  else if s.cursor.pos.column = 0 ∧ isMarker '-' (c :: cs) then s.takeMarker .documentStart
  else if s.cursor.pos.column = 0 ∧ isMarker '.' (c :: cs) then s.takeMarker .documentEnd
  else if c = '[' then s.takeFlowStart .flowSequenceStart
  else if c = '\x7b' then s.takeFlowStart .flowMappingStart
  else if c = ']' then s.takeFlowEnd .flowSequenceEnd
  else if c = '\x7d' then s.takeFlowEnd .flowMappingEnd
  else if c = ',' then s.takeFlowEntry
  else if c = '-' ∧ word then s.takeBlockEntry
  else if c = '?' ∧ (s.inFlow ∨ word) then s.takeKey
  else if c = ':' ∧ (s.inFlow ∨ word) then s.takeValue
  else if c = '*' then
    s.takeWith fun c => (anchorName (c.advance 1)).map fun (name, c) => (.alias name, c)
  else if c = '&' then
    s.takeWith fun c => (anchorName (c.advance 1)).map fun (name, c) => (.anchor name, c)
  else if c = '!' then s.takeWith (tagToken s.inFlow)
  else if c = '|' ∧ !s.inFlow then s.takeBlockScalar true
  else if c = '>' ∧ !s.inFlow then s.takeBlockScalar false
  else if c = '\'' then s.takeQuoted singleQuoted
  else if c = '"' then s.takeQuoted doubleQuoted
  else if startsPlain s.inFlow c cs then s.takePlain
  else .error .strayCharacter

/-- All tokens up to the end of the text. A step that takes nothing from the text is refused. -/
def run (s : Scanner) : Except Problem (List Token) := do
  let t ← s.atToken
  match t.cursor.rest with
  | [] => return (← t.takeEnd).tokens.reverse
  | c :: cs =>
    let u ← t.takeToken c cs
    if u.cursor.rest.length < s.cursor.rest.length then run u else .error .strayCharacter
termination_by s.cursor.rest.length

end Scanner

def Token.scan (cs : List Char) : Except Problem (List Token) := (Scanner.ofChars cs).run

end DataMatch.Yaml
