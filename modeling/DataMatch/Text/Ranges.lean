/-! Sets and mappings of characters given by ranges of code points. -/
namespace DataMatch.Text

def inRanges (ranges : List (Nat × Nat)) (c : Char) : Bool :=
  ranges.any fun (first, last) => first ≤ c.toNat && c.toNat ≤ last

/-- Every `step`-th code point from `first` to `last` moves by `offset`. -/
structure CaseRun where
  first : Nat
  last : Nat
  step : Nat
  offset : Int

def CaseRun.holds (r : CaseRun) (c : Char) : Bool :=
  r.first ≤ c.toNat && c.toNat ≤ r.last && (c.toNat - r.first) % r.step == 0

def mapCase (runs : List CaseRun) (long : List (Nat × List Nat)) (c : Char) : List Char :=
  match long.lookup c.toNat with
  | some codes => codes.map Char.ofNat
  | none =>
    match runs.find? (·.holds c) with
    | some r => [Char.ofNat (c.toNat + r.offset).toNat]
    | none => [c]

end DataMatch.Text
