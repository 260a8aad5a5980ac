import DataMatch.Match.Operator
import DataMatch.Proofs.Words

/-! The relational order. Numbers are ordered in part: what is not a number compares with nothing.
The four relational operators read one such order, so they are consistent with each other, and on
primitives of the same standing the order knows the same equals as loose equality. -/
namespace DataMatch

theorem Binary64.order_swap (x y : Binary64) : y.order x = (x.order y).swap :=
  Std.OrientedOrd.eq_swap (a := y.signedUnits)

theorem Binary64.order_self (x : Binary64) : x.order x = .eq :=
  Std.ReflCmp.compare_self (a := x.signedUnits)

theorem Double.order_swap (x y : Double) : y.order x = (x.order y).map Ordering.swap := by
  cases x with
  | nan => cases y <;> rfl
  | infinity n =>
    cases y with
    | nan => rfl
    | infinity m => exact congrArg some Std.OrientedCmp.eq_swap
    | finite y => cases n <;> rfl
  | finite x =>
    cases y with
    | nan => rfl
    | infinity m => cases m <;> rfl
    | finite y => exact congrArg some (Binary64.order_swap x y)

namespace Number

theorem order_swap (m n : Number) : n.order m = (m.order n).map Ordering.swap := by
  cases m with
  | int m =>
    cases n with
    | int n =>
      rw [order_int, order_int]
      exact congrArg some Std.OrientedCmp.eq_swap
    | float y => exact Double.order_swap (int m).toDouble (float y).toDouble
  | float x =>
    cases n with
    | int n => exact Double.order_swap (float x).toDouble (int n).toDouble
    | float y => exact Double.order_swap (float x).toDouble (float y).toDouble

theorem order_self (n : Number) : n.order n = some .eq := by
  cases n with
  | int n =>
    rw [order_int]
    exact congrArg some Std.ReflCmp.compare_self
  | float x => exact congrArg some x.order_self

end Number

namespace Value

theorem relate_cases (v w : Value) :
    (∃ s t, v = .string s ∧ w = .string t) ∨ (∃ m n, v = .number m ∧ w = .number n) ∨
      v.relate w = v.toNumber.order w.toNumber ∧ w.relate v = w.toNumber.order v.toNumber := by
  cases v with
  | string s =>
    cases w with
    | string t => exact .inl ⟨s, t, rfl, rfl⟩
    | _ => exact .inr (.inr ⟨rfl, rfl⟩)
  | number m =>
    cases w with
    | number n => exact .inr (.inl ⟨m, n, rfl, rfl⟩)
    | _ => exact .inr (.inr ⟨rfl, rfl⟩)
  | _ => cases w <;> exact .inr (.inr ⟨rfl, rfl⟩)

theorem relate_swap (v w : Value) : w.relate v = (v.relate w).map Ordering.swap := by
  rcases relate_cases v w with ⟨s, t, rfl, rfl⟩ | ⟨m, n, rfl, rfl⟩ | ⟨coerced, coerced'⟩
  · exact congrArg some Std.OrientedCmp.eq_swap
  · exact Number.order_swap m n
  · rw [coerced, coerced']
    exact Double.order_swap v.toNumber w.toNumber

theorem relate_of_container {v : Value} (container : v.isContainer = true) (w : Value) :
    v.relate w = none := by
  cases v with
  | array items => cases w <;> rfl
  | object members => cases w <;> rfl
  | _ => contradiction

/-- Both null, or both primitives other than null. -/
inductive SameStanding : Value → Value → Prop
  | null : SameStanding .null .null
  | primitive {v w : Value} (left : v.isContainer = false) (right : w.isContainer = false)
      (leftThere : v.isNull = false) (rightThere : w.isNull = false) : SameStanding v w

theorem looseLeaf_eq_relate {v w : Value} (leftThere : v.isNull = false)
    (rightThere : w.isNull = false) : looseLeaf v w = (v.relate w == some .eq) := by
  cases v with
  | null => contradiction
  | string s =>
    cases w with
    | null => contradiction
    | string t =>
      rw [looseLeaf, relate, Bool.eq_iff_iff]
      simp
    | _ => rfl
  | number m => cases w <;> first | contradiction | rfl
  | bool b =>
    cases w with
    | null => contradiction
    | bool c => cases b <;> cases c <;> decide +kernel
    | _ => rfl
  | array items => cases w <;> first | contradiction | rfl
  | object members => cases w <;> first | contradiction | rfl

theorem relate_eq_iff_looseEq {v w : Value} (same : SameStanding v w) :
    v.relate w = some .eq ↔ v.looseEq w = true := by
  cases same with
  | null => exact iff_of_true (congrArg some Binary64.zero.order_self) rfl
  | primitive left right leftThere rightThere =>
    rw [looseEq, agree_primitive left, right, looseLeaf_eq_relate leftThere rightThere]
    simp

end Value

namespace Operator

def relational : List Operator := [.lt, .le, .gt, .ge]

def Passes (op : Operator) (v w : Value) : Prop :=
  ∀ message path, op.evaluate v w message path = .ok ()

def Fails (op : Operator) (v w : Value) : Prop :=
  ∀ message path, op.evaluate v w message path = .error (.assertion path message)

variable {op : Operator} {v w : Value}

theorem passes_iff : op.Passes v w ↔ op.holds v w = true := by
  constructor
  · intro passes
    cases holds : op.holds v w with
    | true => rfl
    | false =>
      have reported := passes "" .root
      rw [evaluate, holds] at reported
      contradiction
  · intro holds message path
    rw [evaluate, holds]
    rfl

theorem fails_iff : op.Fails v w ↔ op.holds v w = false := by
  constructor
  · intro fails
    cases holds : op.holds v w with
    | false => rfl
    | true =>
      have passed := fails "" .root
      rw [evaluate, holds] at passed
      contradiction
  · intro fails message path
    rw [evaluate, fails]
    rfl

theorem relational_fail_iff : (∀ op ∈ relational, op.Fails v w) ↔ v.relate w = none := by
  simp only [relational, List.forall_mem_cons, List.not_mem_nil, false_implies, implies_true,
    and_true, fails_iff, holds]
  cases v.relate w with
  | none => simp
  | some o => cases o <;> simp

theorem le_passes_iff_ge : Passes .le v w ↔ Passes .ge w v := by
  simp only [passes_iff, holds, Value.relate_swap v w]
  cases v.relate w with
  | none => simp
  | some o => cases o <;> simp

end Operator

/-- The relational operators are consistent with each other and with loose equality: they read one
partial order, which turns round with its sides, knows nothing of containers, and knows the same
equals as loose equality wherever null is not compared with another primitive. -/
theorem relations_consistent (v w : Value) :
    w.relate v = (v.relate w).map Ordering.swap ∧
      (v.isContainer = true ∨ w.isContainer = true →
        v.relate w = none ∧ ∀ op ∈ Operator.relational, ¬ op.Passes v w) ∧
      (Value.SameStanding v w → (v.relate w = some .eq ↔ v.looseEq w = true)) ∧
      (Operator.ge.Passes v w ↔ Operator.gt.Passes v w ∨ v.relate w = some .eq) ∧
      (Operator.le.Passes v w ↔ Operator.ge.Passes w v) ∧
      ¬ (Operator.lt.Passes v w ∧ Operator.ge.Passes v w) ∧
      ((∀ op ∈ Operator.relational, op.Fails v w) ↔ v.relate w = none) := by
  refine ⟨v.relate_swap w, fun container => ?_, Value.relate_eq_iff_looseEq, ?_,
    Operator.le_passes_iff_ge, ?_, Operator.relational_fail_iff⟩
  · have unrelated : v.relate w = none := by
      rcases container with left | right
      · exact Value.relate_of_container left w
      · rw [w.relate_swap v, Value.relate_of_container right v]
        rfl
    refine ⟨unrelated, fun op member passes => ?_⟩
    have fails := Operator.relational_fail_iff.mpr unrelated op member
    rw [Operator.fails_iff, Operator.passes_iff.mp passes] at fails
    contradiction
  · simp only [Operator.passes_iff, Operator.holds]
    simp
  · simp only [Operator.passes_iff, Operator.holds]
    cases v.relate w with
    | none => simp
    | some o => cases o <;> simp

theorem relations_consistent_numeral :
    Value.SameStanding (.string " 1e1") (.int 10) ∧
      (Value.string " 1e1").looseEq (.int 10) = true ∧
      Operator.ge.Passes (.string " 1e1") (.int 10) ∧
      Operator.le.Passes (.int 10) (.string " 1e1") ∧
      (Value.array []).isContainer = true ∧ ¬ Operator.le.Passes (.array []) (.int 0) := by
  have standing : Value.SameStanding (.string " 1e1") (.int 10) := .primitive rfl rfl rfl rfl
  have equal : (Value.string " 1e1").relate (.int 10) = some .eq := by decide +kernel
  obtain ⟨_, _, loose, ge, _⟩ := relations_consistent (.string " 1e1") (.int 10)
  obtain ⟨_, _, _, _, le, _⟩ := relations_consistent (.int 10) (.string " 1e1")
  obtain ⟨_, container, _⟩ := relations_consistent (.array []) (.int 0)
  have atLeast := ge.mpr (.inr equal)
  exact ⟨standing, (loose standing).mp equal, atLeast, le.mpr atLeast, rfl,
    (container (.inl rfl)).2 .le (by decide)⟩

end DataMatch
