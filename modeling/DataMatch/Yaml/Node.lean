import DataMatch.Yaml.Event
import DataMatch.Yaml.Resolution

/-! From the events of a document to its nodes, and from there to data. Aliases are followed to the
node that finally has their number. -/
namespace DataMatch.Yaml

inductive Node where
  | alias (number : Nat)
  | scalar (text : String) (isPlain : Bool) (tag : Option Bytes)
  | sequence (tag : Option Bytes) (items : List Node)
  | mapping (tag : Option Bytes) (entries : List (Node × Node))

def Node.isAlias : Node → Bool
  | .alias _ => true
  | _ => false

structure OpenNode where
  isMapping : Bool
  place : Option Nat
  tag : Option Bytes
  nodes : List Node

def pairs : List Node → List (Node × Node)
  | key :: value :: rest => (key, value) :: pairs rest
  | _ => []

def OpenNode.close (o : OpenNode) : Node :=
  if o.isMapping then .mapping o.tag (pairs o.nodes.reverse) else .sequence o.tag o.nodes.reverse

/-- The reading of a document's events. An anchor takes as its number how many names there are
before it; places count the anchors. The number of a name, and the place of a number, are those
given last. -/
structure NodeBuilder where
  around : List OpenNode
  root : Option Node
  numbers : List (String × Nat)
  places : List (Nat × Nat)
  anchored : List (Nat × Node)
  anchors : Nat

namespace NodeBuilder

def start : NodeBuilder := ⟨[], none, [], [], [], 0⟩

def addAnchor (b : NodeBuilder) (anchor : Option String) : NodeBuilder × Option Nat :=
  match anchor with
  | none => (b, none)
  | some name =>
    let number := b.numbers.length
    ({ b with
        numbers := (name, number) :: b.numbers.filter (·.1 ≠ name)
        places := (number, b.anchors) :: b.places
        anchors := b.anchors + 1 },
      some b.anchors)

def put (b : NodeBuilder) (node : Node) (place : Option Nat) : NodeBuilder :=
  let b :=
    match place with
    | some p => { b with anchored := (p, node) :: b.anchored }
    | none => b
  match b.around with
  | [] => { b with root := some node }
  | o :: rest => { b with around := { o with nodes := node :: o.nodes } :: rest }

def openNode (b : NodeBuilder) (isMapping : Bool) (anchor : Option String) (tag : Option Bytes) :
    NodeBuilder :=
  let (b, place) := b.addAnchor anchor
  { b with around := ⟨isMapping, place, tag, []⟩ :: b.around }

def closeNode (b : NodeBuilder) : NodeBuilder :=
  match b.around with
  | [] => b
  | o :: rest => { b with around := rest }.put o.close o.place

def step (b : NodeBuilder) (e : Event) : Except Problem NodeBuilder :=
  match e with
  | .documentStart => .ok b
  | .documentEnd => .ok b
  | .alias name =>
    match b.numbers.lookup name with
    | some number => .ok (b.put (.alias number) none)
    | none => .error .undefinedAlias
  | .scalar text isPlain anchor tag =>
    let (b, place) := b.addAnchor anchor
    .ok (b.put (.scalar text isPlain tag) place)
  | .sequenceStart anchor tag => .ok (b.openNode false anchor tag)
  | .sequenceEnd => .ok b.closeNode
  | .mappingStart anchor tag => .ok (b.openNode true anchor tag)
  | .mappingEnd => .ok b.closeNode

def target? (b : NodeBuilder) (number : Nat) : Option Node :=
  (b.places.lookup number).bind (b.anchored.lookup ·)

end NodeBuilder

/-- What following aliases goes by: where they lead, and how many may be followed in all. -/
structure Aliases where
  target? : Nat → Option Node
  limit : Nat

def Aliases.follow (a : Aliases) (node : Node) (followed : Nat) : Except Problem (Node × Nat) :=
  match node with
  | .alias number =>
    if a.limit ≤ followed then .error .tooManyAliases
    else
      match a.target? number with
      | some target => .ok (target, followed + 1)
      | none => .error .undefinedAlias
  | node => .ok (node, followed)

def newKey (entries : List (Tree × Tree)) (key : Tree) : Except Problem Unit :=
  if entries.any fun e => e.1.same key then .error .duplicateKey else .ok ()

/-- Whether a mapping decides about the tags of its keys: it has a tag of the document's own. -/
def ownsKeys (tag : Option Bytes) : Bool := (tag.bind localTag?).isSome

/-- The data of a node with at most `depth` collections inside each other, and the number of aliases
followed. The tag of a node counts unless it is `owned`: a key written out in a mapping with a tag
of the document's own is, and so are the keys of a mapping that is itself such a key. -/
def Node.tree (a : Aliases) : Nat → Bool → Node → Nat → Except Problem (Tree × Nat)
  | _, _, .alias _, _ => .error .undefinedAlias
  | _, owned, .scalar text isPlain tag, followed => do
    return (← scalarTree text isPlain (if owned then none else tag), followed)
  | 0, _, .sequence _ _, _ => .error .tooDeep
  | 0, _, .mapping _ _, _ => .error .tooDeep
  | depth + 1, owned, .sequence tag items, followed => do
    let (trees, followed) ← items.foldlM (fun (trees, followed) item => do
      let (node, followed) ← a.follow item followed
      let (tree, followed) ← Node.tree a depth false node followed
      return (tree :: trees, followed)) (([], followed) : List Tree × Nat)
    return (taggedTree (if owned then none else tag) (.sequence trees.reverse), followed)
  | depth + 1, owned, .mapping tag entries, followed => do
    let (trees, followed) ← entries.foldlM (fun (trees, followed) entry => do
      let (keyNode, followed) ← a.follow entry.1 followed
      let keyOwned := (owned || ownsKeys tag) && !entry.1.isAlias
      let (key, followed) ← Node.tree a depth keyOwned keyNode followed
      newKey trees key
      let (node, followed) ← a.follow entry.2 followed
      let (tree, followed) ← Node.tree a depth false node followed
      return ((key, tree) :: trees, followed)) (([], followed) : List (Tree × Tree) × Nat)
    return (taggedTree (if owned then none else tag) (.mapping trees.reverse), followed)

def depthLimit : Nat := 128

def aliasesPerEvent : Nat := 100

def isDocumentStart (e : Event) : Bool := e = .documentStart

def Tree.ofEvents (events : List Event) : Except Problem Tree := do
  if 1 < events.countP isDocumentStart then .error .severalDocuments
  let b ← events.foldlM NodeBuilder.step .start
  match b.root with
  | none => return .null
  | some root =>
    let aliases : Aliases := ⟨b.target?, aliasesPerEvent * (events.length - 2)⟩
    let (node, followed) ← aliases.follow root 0
    let (tree, _) ← node.tree aliases depthLimit false followed
    return tree

end DataMatch.Yaml
