import DataMatch.Decimal.Layout
import DataMatch.Json.Token
import DataMatch.Yaml.Basic

/-! YAML data after its scalars have been understood, when two pieces of it are the same, and how it
is written as a JSON value. -/
namespace DataMatch.Yaml

inductive Tree where
  | null
  | bool (b : Bool)
  | int (n : Int)
  | float (x : Double)
  | string (s : String)
  | sequence (items : List Tree)
  | mapping (entries : List (Tree × Tree))
  | tagged (tag : String) (content : Tree)

namespace Tree

def sameFloat : Double → Double → Bool
  | .nan, .nan => true
  | x, y => x.isEqual y

mutual

/-- Whether two trees are the same data. The order of entries does not matter, and an integer is
never the same as a double. -/
def same (left right : Tree) : Bool :=
  match left with
  | null => match right with
    | null => true
    | _ => false
  | bool a => match right with
    | bool b => a == b
    | _ => false
  | int m => match right with
    | int n => m == n
    | _ => false
  | float x => match right with
    | float y => sameFloat x y
    | _ => false
  | string s => match right with
    | string t => s == t
    | _ => false
  | sequence xs => match right with
    | sequence ys => sameItems xs ys
    | _ => false
  | mapping es => match right with
    | mapping fs => es.length == fs.length && sameEntries es fs
    | _ => false
  | tagged t x => match right with
    | tagged u y => t == u && same x y
    | _ => false
termination_by structural left

def sameItems (left right : List Tree) : Bool :=
  match left with
  | [] => right.isEmpty
  | x :: xs => match right with
    | [] => false
    | y :: ys => same x y && sameItems xs ys
termination_by structural left

def sameEntries (left right : List (Tree × Tree)) : Bool :=
  match left with
  | [] => true
  | (k, x) :: rest => (right.any fun e => same k e.1 && same x e.2) && sameEntries rest right
termination_by structural left

end

def keyText : Tree → Except Json.Fault String
  | string s => .ok s
  | bool b => .ok (if b then "true" else "false")
  | int n => .ok (toString n)
  | float (.finite x) => .ok x.text
  | _ => .error .malformed

mutual

/-- The tree as a JSON value. Doubles that JSON cannot write become null, and a tagged value is an
object with its tag as the only key. -/
def toJson : Tree → Except Json.Fault Value
  | null => .ok .null
  | bool b => .ok (.bool b)
  | int n => .ok (.int n)
  | float (.finite x) => .ok (.number (.float x))
  | float _ => .ok .null
  | string s => .ok (.string s)
  | sequence items => (itemsToJson items).map .array
  | mapping entries => (entriesToJson entries).map fun ms => .object (Members.ofList ms)
  | tagged tag content => (toJson content).map fun v => .object [("!" ++ tag, v)]

def itemsToJson : List Tree → Except Json.Fault (List Value)
  | [] => .ok []
  | t :: rest => do
    let v ← toJson t
    let vs ← itemsToJson rest
    return v :: vs

def entriesToJson : List (Tree × Tree) → Except Json.Fault Members
  | [] => .ok []
  | (k, t) :: rest => do
    let key ← keyText k
    let v ← toJson t
    let ms ← entriesToJson rest
    return (key, v) :: ms

end

end Tree

end DataMatch.Yaml
