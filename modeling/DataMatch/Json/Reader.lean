import DataMatch.Json.Scan

/-! Reading one JSON value. A machine with a stack of open containers takes the tokens in order, so
the first token that cannot stand where it stands decides the fault. -/
namespace DataMatch.Json

/-- A container that is still open: the items so far, last first, or the members so far and the
key whose value comes next. -/
inductive Frame where
  | array (items : List Value)
  | object (members : Members) (key : String)

inductive Reading where
  /-- A value; right after an opening bracket, also the closing one. -/
  | value (around : List Frame) (first : Bool)
  /-- A key; right after an opening brace, also the closing one. -/
  | key (around : List Frame) (members : Members) (first : Bool)
  | colon (around : List Frame) (members : Members) (key : String)
  | afterItem (around : List Frame) (items : List Value)
  | afterMember (around : List Frame) (members : Members)
  | complete (v : Value)

def Reading.put : List Frame → Value → Reading
  | [], v => complete v
  | .array items :: around, v => afterItem around (v :: items)
  | .object members k :: around, v => afterMember around (members.insert k v)

/-- Takes one token. At most `depth` containers may be open at once. -/
def Reading.step (depth : Nat) : Reading → Token → Except Fault Reading
  | value around first, token =>
    match token with
    | .scalar v => .ok (put around v)
    | .string s => .ok (put around (.string s))
    | .openArray =>
      if around.length < depth then .ok (value (.array [] :: around) true) else .error .malformed
    | .openObject =>
      if around.length < depth then .ok (key around [] true) else .error .malformed
    | .closeArray =>
      match first, around with
      | true, .array items :: around => .ok (put around (.array items.reverse))
      | _, _ => .error .malformed
    | .brokenScalar f => .error f
    | .brokenString f => .error f
    | _ => .error .malformed
  | key around members first, token =>
    match token with
    | .string s => .ok (colon around members s)
    | .brokenString f => .error f
    | .closeObject => if first then .ok (put around (.object members)) else .error .malformed
    | _ => .error .malformed
  | colon around members k, token =>
    match token with
    | .colon => .ok (value (.object members k :: around) false)
    | _ => .error .malformed
  | afterItem around items, token =>
    match token with
    | .comma => .ok (value (.array items :: around) false)
    | .closeArray => .ok (put around (.array items.reverse))
    | _ => .error .malformed
  | afterMember around members, token =>
    match token with
    | .comma => .ok (key around members false)
    | .closeObject => .ok (put around (.object members))
    | _ => .error .malformed
  | complete _, _ => .error .malformed

def Reading.finish : Reading → Except Fault Value
  | complete v => .ok v
  | _ => .error .unfinished

def readWithin (depth : Nat) (bytes : Bytes) : Except Fault Value := do
  let last ← (Token.scan bytes).foldlM (Reading.step depth) (.value [] false)
  last.finish

def depthLimit : Nat := 127

def read (bytes : Bytes) : Except Fault Value := readWithin depthLimit bytes

end DataMatch.Json
