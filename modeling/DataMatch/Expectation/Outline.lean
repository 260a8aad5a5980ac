import DataMatch.Expectation.Basic
import DataMatch.Json.Text
import DataMatch.Text.Quoted

/-! The outline of a template for people to read, on one line. Functions show as two points. -/
namespace DataMatch

def outlineTuple (name inner : String) : String := name ++ "(" ++ inner ++ ")"

def outlineList (items : List String) : String := "[" ++ ", ".intercalate items ++ "]"

def outlineBraces (items : List String) : String :=
  "\x7b" ++ ", ".intercalate items ++ "\x7d"

def outlineFields (name : String) (fields : List String) : String :=
  name ++ " \x7b " ++ ", ".intercalate fields ++ " \x7d"

def outlineOption (inner : Option String) : String :=
  match inner with
  | some s => outlineTuple "Some" s
  | none => "None"

namespace Value

mutual

def outline : Value → String
  | null => "Null"
  | bool b => outlineTuple "Bool" (if b then "true" else "false")
  | number n => outlineTuple "Number" n.text
  | string s => outlineTuple "String" (Text.quoted s)
  | array items => "Array " ++ outlineList (itemOutlines items)
  | object members => "Object " ++ outlineBraces (memberOutlines members)

def itemOutlines : List Value → List String
  | [] => []
  | v :: rest => outline v :: itemOutlines rest

def memberOutlines : List (String × Value) → List String
  | [] => []
  | (key, v) :: rest => (Text.quoted key ++ ": " ++ outline v) :: memberOutlines rest

end

end Value

def Operand.outline : Operand → String
  | value v => outlineTuple "Value" v.outline
  | predicate _ => outlineTuple "Predicate" "Predicate(..)"

def Transform.outline (t : Transform) : String :=
  outlineFields "Transform" ["name: " ++ Text.quoted t.name, ".."]

def Message.outline : Message → String
  | literal s => outlineTuple "Literal" (Text.quoted s)
  | render _ => "Render(..)"

def Slots.outlines (s : Slots) : List String :=
  ["check: " ++ outlineOption (s.check.map Text.quoted),
    "value: " ++ outlineOption (s.operand.map Operand.outline),
    "func: " ++ outlineOption (s.transform.map Transform.outline),
    "message: " ++ outlineOption (s.message.map Message.outline)]

namespace Expectation

mutual

def outline : Expectation → String
  | literal v => outlineTuple "Literal" v.outline
  | record slots fields =>
    outlineTuple "Record" (outlineFields "Record"
      (("fields: " ++ outlineList (fieldOutlines fields)) :: slots.outlines))

def fieldOutlines : List (String × Expectation) → List String
  | [] => []
  | (name, e) :: rest =>
    ("(" ++ Text.quoted name ++ ", " ++ outline e ++ ")") :: fieldOutlines rest

end

end Expectation

def Template.outline : Template → String
  | fixed e => outlineTuple "Static" e.outline
  | each _ => "Factory(..)"

end DataMatch
