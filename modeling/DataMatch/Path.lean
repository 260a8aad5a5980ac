/-! The place that is being checked: the field names and positions that lead to it. -/
namespace DataMatch

structure Path where
  segments : List String
deriving DecidableEq, Repr

namespace Path

def root : Path := ⟨[]⟩

instance : Inhabited Path := ⟨root⟩

def push (p : Path) (segment : String) : Path := ⟨p.segments ++ [segment]⟩

def pop (p : Path) : Path := ⟨p.segments.dropLast⟩

def last (p : Path) : String := p.segments.getLastD ""

def text (p : Path) : String := ".".intercalate p.segments

instance : ToString Path := ⟨text⟩

@[simp] theorem segments_push (p : Path) (s : String) :
    (p.push s).segments = p.segments ++ [s] := rfl

@[simp] theorem pop_push (p : Path) (s : String) : (p.push s).pop = p := by
  cases p
  simp [push, pop]

end Path

end DataMatch
