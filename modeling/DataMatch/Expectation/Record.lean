import DataMatch.Expectation.Basic

/-! Building a record step by step. -/
namespace DataMatch

/-- A record under construction. Setting a slot again replaces it. -/
structure Record where
  slots : Slots
  fields : Fields

namespace Record

def new : Record := ⟨.none, []⟩

def field (r : Record) (name : String) (e : Expectation) : Record :=
  { r with fields := r.fields ++ [(name, e)] }

def check (r : Record) (name : String) : Record :=
  { r with slots := { r.slots with check := some name } }

def operand (r : Record) (o : Operand) : Record :=
  { r with slots := { r.slots with operand := some o } }

def value (r : Record) (v : Value) : Record := r.operand (.value v)

def predicate (r : Record) (test : Value → Bool) : Record :=
  r.operand (.predicate fun v => .ok (test v))

def transform (r : Record) (t : Transform) : Record :=
  { r with slots := { r.slots with transform := some t } }

def message (r : Record) (text : String) : Record :=
  { r with slots := { r.slots with message := some (.literal text) } }

def messageWith (r : Record) (text : Value → Value → String) : Record :=
  { r with slots := { r.slots with message := some (.render text) } }

def directive (name : String) (v : Value) : Record := (new.check name).value v

def stripped (r : Record) : Record := { r with slots := .none }

def toExpectation (r : Record) : Expectation := .record r.slots r.fields

instance : Coe Record Expectation := ⟨toExpectation⟩

end Record

end DataMatch
