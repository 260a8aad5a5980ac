import DataMatch.Decimal.Basic
import DataMatch.Value.Basic

/-! Comparing values: the coercion of primitives to numbers, loose and strict equality, and the
relational order. Both equalities treat containers alike and differ at the leaves only. -/
namespace DataMatch

def Text.isForeignLetter (c : Char) : Bool := c.isAlpha && c != 'e' && c != 'E'

/-- The number a text stands for. Blank text is 0, infinities have one spelling, and all else is the
text of a double without words. -/
def Text.toNumber (s : String) : Double :=
  let cs := trimChars s.toList
  if cs = [] then .finite Binary64.zero
  else if cs = "Infinity".toList ∨ cs = "+Infinity".toList then .infinity false
  else if cs = "-Infinity".toList then .infinity true
  else if cs.any isForeignLetter then .nan
  else (Double.ofChars? cs).getD .nan

namespace Value

def toNumber : Value → Double
  | null => .finite Binary64.zero
  | bool b => Double.ofInt (if b then 1 else 0)
  | number n => n.toDouble
  | string s => Text.toNumber s
  | array _ => .nan
  | object _ => .nan

mutual

/-- Structural equality over a relation between primitives. Arrays agree item by item, objects
have as many members and agree key by key, and a container agrees with no primitive. -/
def agree (leaf : Value → Value → Bool) (left right : Value) : Bool :=
  match left with
  | array xs =>
    match right with
    | array ys => agreeItems leaf xs ys
    | _ => false
  | object ms =>
    match right with
    | object ns => ms.length == ns.length && agreeMembers leaf ms ns
    | _ => false
  | primitive => !right.isContainer && leaf primitive right
termination_by structural left

def agreeItems (leaf : Value → Value → Bool) (left right : List Value) : Bool :=
  match left with
  | [] => right.isEmpty
  | x :: xs =>
    match right with
    | [] => false
    | y :: ys => agree leaf x y && agreeItems leaf xs ys
termination_by structural left

def agreeMembers (leaf : Value → Value → Bool) (left right : Members) : Bool :=
  match left with
  | [] => true
  | (key, x) :: rest =>
    (match right.lookup key with
      | some y => agree leaf x y
      | none => false) && agreeMembers leaf rest right
termination_by structural left

end

theorem agree_primitive {leaf : Value → Value → Bool} {v w : Value}
    (primitive : v.isContainer = false) :
    agree leaf v w = (!w.isContainer && leaf v w) := by
  cases v with
  | array items => contradiction
  | object members => contradiction
  | _ => rfl

/-- Primitives of one kind compare by value, `null` equals only itself, and mixed kinds compare as
numbers. -/
def looseLeaf : Value → Value → Bool
  | null, null => true
  | null, _ => false
  | _, null => false
  | string s, string t => s == t
  | bool a, bool b => a == b
  | number m, number n => m.order n == some .eq
  | left, right => left.toNumber.isEqual right.toNumber

def strictLeaf : Value → Value → Bool
  | null, null => true
  | string s, string t => s == t
  | bool a, bool b => a == b
  | number m, number n => m.order n == some .eq
  | _, _ => false

def looseEq : Value → Value → Bool := agree looseLeaf

def strictEq : Value → Value → Bool := agree strictLeaf

/-- The relational order: two strings by code points, two numbers by value, anything else after
coercion to numbers. Nothing when a side is not a number. -/
def relate : Value → Value → Option Ordering
  | string s, string t => some (compare s t)
  | number m, number n => m.order n
  | left, right => left.toNumber.order right.toNumber

end Value

end DataMatch
