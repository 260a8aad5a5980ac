import DataMatch.Yaml.Scan

/-! From tokens to events: the nodes of each document in order, collections as a start and an end. A
stack says what is still to come, and every token is handed to its top. -/
namespace DataMatch.Yaml

inductive Event where
  | documentStart
  | documentEnd
  | alias (name : String)
  | scalar (text : String) (isPlain : Bool) (anchor : Option String) (tag : Option Bytes)
  | sequenceStart (anchor : Option String) (tag : Option Bytes)
  | sequenceEnd
  | mappingStart (anchor : Option String) (tag : Option Bytes)
  | mappingEnd
deriving DecidableEq, Repr

structure Properties where
  anchor : Option String
  tag : Option Bytes
deriving DecidableEq, Repr

def Properties.none : Properties := ⟨.none, .none⟩

/-- What tells that a node was left out: the tokens that may follow it. -/
inductive Follow where
  | never
  | document
  | blockEntry
  | indentlessEntry
  | blockPair
  | flowPair
  | flowKey
  | flowValue
deriving DecidableEq, Repr

def Follow.holds : Follow → Token → Bool
  | document, .version _ _ => true
  | document, .tagHandle _ _ => true
  | document, .documentStart => true
  | document, .documentEnd => true
  | document, .streamEnd => true
  | blockEntry, .blockEntry => true
  | blockEntry, .blockEnd => true
  | indentlessEntry, .blockEntry => true
  | indentlessEntry, .key => true
  | indentlessEntry, .value => true
  | indentlessEntry, .blockEnd => true
  | blockPair, .key => true
  | blockPair, .value => true
  | blockPair, .blockEnd => true
  | flowPair, .flowEntry => true
  | flowPair, .flowSequenceEnd => true
  | flowKey, .value => true
  | flowKey, .flowEntry => true
  | flowKey, .flowMappingEnd => true
  | flowValue, .flowEntry => true
  | flowValue, .flowMappingEnd => true
  | _, _ => false

/-- What may stand for a node besides scalars, aliases and flow collections. -/
structure Place where
  block : Bool
  /-- The entries of a block sequence that has no indentation of its own. -/
  indentless : Bool
deriving DecidableEq, Repr

inductive Pending where
  /-- The next document or the end; the first document needs no marker. -/
  | document (first : Bool)
  | directives (hasVersion : Bool)
  | documentEnd
  | node (place : Place) (follow : Follow)
  | content (place : Place) (props : Properties)
  | blockEntry
  | indentlessEntry
  | blockKey
  | blockValue
  | flowItem
  | afterItem
  | pairKey
  | pairValue
  | pairEnd
  | flowKey
  | afterPair
  | flowValue
  | noValue
deriving DecidableEq, Repr

abbrev Handles := List (String × Bytes)

def standardHandles : Handles :=
  [("!", Text.toBytes "!"), ("!!", Text.toBytes "tag:yaml.org,2002:")]

structure Stream where
  pending : List Pending
  handles : Handles
  events : List Event

namespace Stream

def emit (s : Stream) (e : Event) : Stream := { s with events := e :: s.events }

def push (s : Stream) (ps : List Pending) : Stream := { s with pending := ps ++ s.pending }

def emitEmpty (s : Stream) (props : Properties) : Stream :=
  s.emit (.scalar "" true props.anchor props.tag)

def resolveTag (s : Stream) (handle : String) (suffix : Bytes) : Except Problem Bytes :=
  if handle = "" then .ok suffix
  else
    match s.handles.lookup handle with
    | some replacement => .ok (replacement ++ suffix)
    | none => .error .undefinedTagHandle

/-- The first token of a node without properties, or of what follows them. Nothing if the token
begins no node. -/
def startContent (s : Stream) (place : Place) (props : Properties) (t : Token) :
    Option Stream :=
  match t with
  | .scalar text isPlain => some (s.emit (.scalar text isPlain props.anchor props.tag))
  | .flowSequenceStart => some ((s.emit (.sequenceStart props.anchor props.tag)).push [.flowItem])
  | .flowMappingStart => some ((s.emit (.mappingStart props.anchor props.tag)).push [.flowKey])
  | .blockSequenceStart =>
    if place.block then some ((s.emit (.sequenceStart props.anchor props.tag)).push [.blockEntry])
    else none
  | .blockMappingStart =>
    if place.block then some ((s.emit (.mappingStart props.anchor props.tag)).push [.blockKey])
    else none
  | .blockEntry =>
    if place.indentless then
      some ((s.emit (.sequenceStart props.anchor props.tag)).push
        [.node ⟨true, false⟩ .indentlessEntry, .indentlessEntry])
    else none
  | _ => none

def takeProperty (s : Stream) (props : Properties) (t : Token) :
    Except Problem (Option Properties) :=
  match t with
  | .anchor name =>
    .ok (if props.anchor.isNone then some { props with anchor := some name } else none)
  | .tag handle suffix =>
    if props.tag.isNone then
      (s.resolveTag handle suffix).map fun tag => some { props with tag := some tag }
    else .ok none
  | _ => .ok none

def startNode (s : Stream) (place : Place) (t : Token) : Except Problem Stream := do
  match t with
  | .alias name => return s.emit (.alias name)
  | _ =>
    match ← s.takeProperty .none t with
    | some props => return s.push [.content place props]
    | none =>
      match s.startContent place .none t with
      | some s => return s
      | none => .error .unexpectedToken

/-- A directive in front of a document. There is one version directive at most, and no handle is
given twice. -/
def takeDirective (s : Stream) (hasVersion : Bool) (t : Token) :
    Except Problem (Option Stream) :=
  match t with
  | .version major minor =>
    if hasVersion || major ≠ 1 || (minor ≠ 1 && minor ≠ 2) then .error .badDirective
    else .ok (some (s.push [.directives true]))
  | .tagHandle handle replacement =>
    if (s.handles.map (·.1)).contains handle then .error .badDirective
    else
      .ok (some { s.push [.directives hasVersion] with
        handles := s.handles ++ [(handle, replacement)] })
  | _ => .ok none

def startDocument (s : Stream) (place : Follow) : Stream :=
  { s.emit .documentStart with
    handles := s.handles ++ standardHandles
    pending := .node ⟨true, false⟩ place :: .documentEnd :: .document false :: s.pending }

/-- Hands a token to what is to come first. What the token cannot begin is left out, and the token
goes on to the next. -/
def feed (s : Stream) (t : Token) : List Pending → Except Problem Stream
  | [] => .error .unexpectedToken
  | top :: rest => do
    let s := { s with pending := rest }
    match top with
    | .document first =>
      match t with
      | .streamEnd => return s
      | .documentStart => return s.startDocument .document
      | .documentEnd =>
        if first then .error .unexpectedToken else return s.push [.document false]
      | _ =>
        match ← s.takeDirective false t with
        | some s => return s
        | none =>
          if first then
            let s := s.startDocument .never
            { s with pending := s.pending.drop 1 }.startNode ⟨true, false⟩ t
          else .error .unexpectedToken
    | .directives hasVersion =>
      match t with
      | .documentStart => return s.startDocument .document
      | _ =>
        match ← s.takeDirective hasVersion t with
        | some s => return s
        | none => .error .unexpectedToken
    | .documentEnd =>
      let s := { s.emit .documentEnd with handles := [] }
      if t = .documentEnd then return s else feed s t rest
    | .node place follow =>
      if follow.holds t then feed (s.emitEmpty .none) t rest else s.startNode place t
    | .content place props =>
      match ← s.takeProperty props t with
      | some props => return s.push [.content place props]
      | none =>
        match s.startContent place props t with
        | some s => return s
        | none => feed (s.emitEmpty props) t rest
    | .blockEntry =>
      match t with
      | .blockEntry => return s.push [.node ⟨true, false⟩ .blockEntry, .blockEntry]
      | .blockEnd => return s.emit .sequenceEnd
      | _ => .error .unexpectedToken
    | .indentlessEntry =>
      if t = .blockEntry then
        return s.push [.node ⟨true, false⟩ .indentlessEntry, .indentlessEntry]
      else feed (s.emit .sequenceEnd) t rest
    | .blockKey =>
      match t with
      | .key => return s.push [.node ⟨true, true⟩ .blockPair, .blockValue, .blockKey]
      | .blockEnd => return s.emit .mappingEnd
      | _ => .error .unexpectedToken
    | .blockValue =>
      if t = .value then return s.push [.node ⟨true, true⟩ .blockPair]
      else feed (s.emitEmpty .none) t rest
    | .flowItem =>
      match t with
      | .flowSequenceEnd => return s.emit .sequenceEnd
      | .key =>
        return (s.emit (.mappingStart none none)).push [.pairKey, .pairValue, .pairEnd, .afterItem]
      | _ => (s.push [.afterItem]).startNode ⟨false, false⟩ t
    | .afterItem =>
      match t with
      | .flowEntry => return s.push [.flowItem]
      | .flowSequenceEnd => return s.emit .sequenceEnd
      | _ => .error .unexpectedToken
    | .pairKey =>
      if t = .value ∨ Follow.flowPair.holds t then return s.emitEmpty .none
      else s.startNode ⟨false, false⟩ t
    | .pairValue =>
      if t = .value then return s.push [.node ⟨false, false⟩ .flowPair]
      else feed (s.emitEmpty .none) t rest
    | .pairEnd => feed (s.emit .mappingEnd) t rest
    | .flowKey =>
      match t with
      | .flowMappingEnd => return s.emit .mappingEnd
      | .key =>
        return s.push [.node ⟨false, false⟩ .flowKey, .flowValue, .afterPair]
      | _ => (s.push [.noValue, .afterPair]).startNode ⟨false, false⟩ t
    | .afterPair =>
      match t with
      | .flowEntry => return s.push [.flowKey]
      | .flowMappingEnd => return s.emit .mappingEnd
      | _ => .error .unexpectedToken
    | .flowValue =>
      if t = .value then return s.push [.node ⟨false, false⟩ .flowValue]
      else feed (s.emitEmpty .none) t rest
    | .noValue => feed (s.emitEmpty .none) t rest

def step (s : Stream) (t : Token) : Except Problem Stream := s.feed t s.pending

end Stream

def Event.ofTokens (tokens : List Token) : Except Problem (List Event) := do
  let s ← tokens.foldlM Stream.step ⟨[.document true], [], []⟩
  return s.events.reverse

end DataMatch.Yaml
