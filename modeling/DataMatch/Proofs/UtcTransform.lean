import DataMatch.Proofs.Instants
import DataMatch.Proofs.Transforms

/-! The `utc` transform. It makes equal what is one instant and nothing else. A relation under it is
chronological but for two fractions of one second: there a text cut short is above the other. -/
namespace DataMatch.Timestamp

open Transform

variable {s t : String} {a b : Timestamp}

theorem utc_text (read : ofText? s = some a) :
    Transform.utc (.string s) = .string (String.ofList a.utcChars) := by
  rw [Transform.utc, onText, normalize?, read]
  rfl

theorem bounded_of_ofText? (read : ofText? s = some a) : a.Bounded :=
  (ofText?_eq_some_iff.mp read).bounded

/-- The `utc` transform is a canonical form for instants. -/
theorem utc_canonical (left : ofText? s = some a) (right : ofText? t = some b) :
    Denotes s.toList a ∧ Denotes t.toList b ∧
      (a.SameInstant b ↔
        a.minute = b.minute ∧ a.second = b.second ∧ a.nanosecond = b.nanosecond) ∧
      ∃ utc, named? "utc" = some utc ∧
        (∃ u w, utc.apply (.string s) = .string u ∧ utc.apply (.string t) = .string w ∧
          (u = w ↔ a.SameInstant b)) ∧
        ∀ check ∈ equalities, ∀ message fields path,
          (utc.directive check (.string t) message fields).compare (some (.string s)) path =
            .ok () ↔ a.SameInstant b := by
  have same : String.ofList a.utcChars = String.ofList b.utcChars ↔ a.SameInstant b := by
    rw [String.ofList_inj, utcChars_eq_iff (bounded_of_ofText? left) (bounded_of_ofText? right),
      order_eq_eq_iff, sameInstant_iff]
  refine ⟨ofText?_eq_some_iff.mp left, ofText?_eq_some_iff.mp right, sameInstant_iff,
    ⟨"utc", Transform.utc⟩, rfl, ⟨_, _, utc_text left, utc_text right, same⟩, ?_⟩
  intro check member message fields path
  rw [← same]
  exact equality_of_texts member (utc_text left) (utc_text right) rfl message fields path

theorem utc_canonical_lastLeapSecond :
    ∃ a b, ofText? "9999-12-31T23:30:60.5000000009-00:30" = some a ∧
      ofText? "9999-12-31t23:59:60.50\u221200:01" = some b ∧ a.SameInstant b ∧
      ∃ utc, named? "utc" = some utc ∧
        (utc.directive "===" (.string "9999-12-31t23:59:60.50\u221200:01") none []).compare
          (some (.string "9999-12-31T23:30:60.5000000009-00:30")) .root = .ok () := by
  have left : ofText? "9999-12-31T23:30:60.5000000009-00:30" =
      some ⟨5259492000, 60, 500000000, -30⟩ := by decide +kernel
  have right : ofText? "9999-12-31t23:59:60.50\u221200:01" =
      some ⟨5259492000, 60, 500000000, -1⟩ := by decide +kernel
  obtain ⟨-, -, instant, utc, named, -, passes⟩ := utc_canonical left right
  have same := instant.mpr ⟨rfl, rfl, rfl⟩
  exact ⟨_, _, left, right, same, utc, named,
    (passes "===" (by decide) none [] .root).mpr same⟩

def relations : List (String × (Ordering → Bool)) :=
  [("<", Ordering.isLT), ("<=", Ordering.isLE), (">", Ordering.isGT), (">=", Ordering.isGE)]

theorem relation_of_texts {relation : String × (Ordering → Bool)} {f : Transform} {v w : Value}
    (member : relation ∈ relations) (left : f.apply v = .string s) (right : f.apply w = .string t)
    (shape : v.isObject = false) (message : Option Message) (fields : Fields) (path : Path) :
    (f.directive relation.1 w message fields).compare (some v) path = .ok () ↔
      relation.2 (compare s t) = true := by
  have related : (Value.string s).relate (.string t) = some (compare s t) := rfl
  have passes {check : String} {op : Operator}
      (named : CheckKind.named? check = some (.compare op)) :
      (f.directive check w message fields).compare (some v) path = .ok () ↔
        op.holds (.string s) (.string t) = true := by
    rw [directive_passes_iff named shape, left, right]
  simp only [relations, List.mem_cons, List.not_mem_nil, or_false] at member
  rcases member with rfl | rfl | rfl | rfl
  all_goals
    rw [passes rfl]
    cases order : compare s t <;> simp [Operator.holds, related, order]

/-- Relations under the `utc` transform read the instants, in the years whose texts have four
digits, but take a fraction that is cut short for the later one. -/
theorem utc_relations (left : ofText? s = some a) (right : ofText? t = some b)
    (years : (0 ≤ a.toUtc.date.year ∧ a.toUtc.date.year ≤ 9999) ∧
      0 ≤ b.toUtc.date.year ∧ b.toUtc.date.year ≤ 9999) :
    Denotes s.toList a ∧ Denotes t.toList b ∧ ∃ utc, named? "utc" = some utc ∧
      ∀ relation ∈ relations, ∀ message fields path,
        (utc.directive relation.1 (.string t) message fields).compare (some (.string s)) path =
            .ok () ↔
          relation.2 (if a.CutShort b ∨ b.CutShort a then (a.order b).swap else a.order b) =
            true := by
  have texts : compare (String.ofList a.utcChars) (String.ofList b.utcChars) =
      if a.CutShort b ∨ b.CutShort a then (a.order b).swap else a.order b := by
    rw [compare_toList, String.toList_ofList, String.toList_ofList]
    exact compare_utcChars (bounded_of_ofText? left) (bounded_of_ofText? right) years
  refine ⟨ofText?_eq_some_iff.mp left, ofText?_eq_some_iff.mp right,
    ⟨"utc", Transform.utc⟩, rfl, ?_⟩
  intro relation member message fields path
  rw [← texts]
  exact relation_of_texts member (utc_text left) (utc_text right) rfl message fields path

theorem utc_relations_leapSecond :
    ∃ a b, ofText? "2024-03-01T00:30:59.25+00:31" = some a ∧
      ofText? "2024-02-29T23:59:60Z" = some b ∧ a.toUtc.date = ⟨2024, 2, 29⟩ ∧
      b.toUtc.date = ⟨2024, 2, 29⟩ ∧ a.order b = .lt ∧
      ∃ utc, named? "utc" = some utc ∧
        (utc.directive "<" (.string "2024-02-29T23:59:60Z") none []).compare
          (some (.string "2024-03-01T00:30:59.25+00:31")) .root = .ok () := by
  have left : ofText? "2024-03-01T00:30:59.25+00:31" =
      some ⟨1064607839, 59, 250000000, 31⟩ := by decide +kernel
  have right : ofText? "2024-02-29T23:59:60Z" = some ⟨1064607839, 60, 0, 0⟩ := by decide +kernel
  obtain ⟨-, -, utc, named, passes⟩ := utc_relations left right (by decide +kernel)
  exact ⟨_, _, left, right, by decide +kernel, by decide +kernel, by decide, utc, named,
    (passes _ List.mem_cons_self none [] .root).mpr (by decide)⟩

/-- Half a second later, and yet not above: the point of the fraction is below the mark of UTC. -/
theorem utc_not_chronological :
    ∃ a b, ofText? "2026-01-01T00:00:30Z" = some a ∧
      ofText? "2026-01-01T00:00:30.5Z" = some b ∧ a.toUtc.date = ⟨2026, 1, 1⟩ ∧
      b.toUtc.date = ⟨2026, 1, 1⟩ ∧ a.order b = .lt ∧
      ∃ utc, named? "utc" = some utc ∧
        (utc.directive "<" (.string "2026-01-01T00:00:30.5Z") none []).compare
          (some (.string "2026-01-01T00:00:30Z")) .root ≠ .ok () := by
  have left : ofText? "2026-01-01T00:00:30Z" = some ⟨1065574080, 30, 0, 0⟩ := by decide +kernel
  have right : ofText? "2026-01-01T00:00:30.5Z" = some ⟨1065574080, 30, 500000000, 0⟩ := by
    decide +kernel
  refine ⟨_, _, left, right, by decide +kernel, by decide +kernel, by decide,
    ⟨"utc", Transform.utc⟩, rfl, ?_⟩
  have member : ("<", Ordering.isLT) ∈ relations := List.mem_cons_self
  intro passed
  rw [relation_of_texts member (utc_text left) (utc_text right) rfl] at passed
  revert passed
  decide +kernel

end DataMatch.Timestamp
