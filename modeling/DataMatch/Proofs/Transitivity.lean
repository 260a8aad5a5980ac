import DataMatch.Proofs.Equality
import DataMatch.Proofs.Rounding

/-! Chains of strictly equal values. Integers are compared exactly, but an integer and a double are
compared as doubles, so a double can stand between two different integers that round to it. That is
the only way in which strict equality is not transitive, and integers that doubles hold exactly are
safe from it. -/
namespace DataMatch

theorem Double.order_eq_iff {x y : Double} :
    x.order y = some .eq ↔ (∃ n, x = .infinity n ∧ y = .infinity n) ∨
      ∃ a b, x = .finite a ∧ y = .finite b ∧ a.signedUnits = b.signedUnits := by
  cases x with
  | nan => simp [order]
  | infinity n =>
    cases y with
    | infinity m => simp [order]
    | _ => cases n <;> simp [order]
  | finite a =>
    cases y with
    | infinity m => cases m <;> simp [order]
    | _ => simp [order, Binary64.order]

theorem Double.order_eq_trans {x y z : Double} (first : x.order y = some .eq)
    (second : y.order z = some .eq) : x.order z = some .eq := by
  rw [order_eq_iff] at first second ⊢
  rcases first with ⟨n, rfl, rfl⟩ | ⟨a, b, rfl, rfl, left⟩
  · rcases second with ⟨m, same, rfl⟩ | ⟨b, c, other, _⟩
    · exact .inl ⟨m, same, rfl⟩
    · contradiction
  · rcases second with ⟨m, other, _⟩ | ⟨b, c, same, rfl, right⟩
    · contradiction
    · cases same
      exact .inr ⟨a, c, rfl, rfl, left.trans right⟩

namespace Number

variable {a b c : Number}

theorem eq_of_order {m n : Int} (same : (int m).order (int n) = some .eq) : m = n := by
  rw [order_int] at same
  exact Std.LawfulEqCmp.eq_of_compare (Option.some.inj same)

theorem order_float (n : Number) (x : Binary64) :
    n.order (float x) = n.toDouble.order (.finite x) := by
  cases n <;> rfl

theorem float_order (x : Binary64) (n : Number) :
    (float x).order n = (Double.finite x).order n.toDouble := by
  cases n <;> rfl

/-- Equal numbers chain, except that a double can stand between two different integers. -/
theorem order_chain (first : a.order b = some .eq) (second : b.order c = some .eq) :
    a.order c = some .eq ∨ ∃ m x n, m ≠ n ∧ a = int m ∧ b = float x ∧ c = int n := by
  cases b with
  | int k =>
    -- An integer in the middle is the same as an integer beside it.
    cases a with
    | int m =>
      rw [eq_of_order first]
      exact .inl second
    | float w =>
      cases c with
      | int n =>
        rw [← eq_of_order second]
        exact .inl first
      | float z =>
        rw [float_order] at first ⊢
        rw [order_float] at second
        exact .inl (Double.order_eq_trans first second)
  | float x =>
    rw [order_float] at first
    rw [float_order] at second
    have chain := Double.order_eq_trans first second
    cases a with
    | float w =>
      rw [float_order]
      exact .inl chain
    | int m =>
      cases c with
      | float z =>
        rw [order_float]
        exact .inl chain
      | int n =>
        by_cases same : m = n
        · rw [same]
          exact .inl (int n).order_self
        · exact .inr ⟨m, x, n, same, rfl, rfl, rfl⟩

theorem int_eq_of_between {m n : Int} {x : Binary64} (left : m.natAbs ≤ Nat.pow 2 53)
    (right : n.natAbs ≤ Nat.pow 2 53) (first : (int m).order (float x) = some .eq)
    (second : (float x).order (int n) = some .eq) : m = n := by
  obtain ⟨y, held, units⟩ := Double.ofInt_exact left
  obtain ⟨z, held', units'⟩ := Double.ofInt_exact right
  rw [order_float, toDouble, held] at first
  rw [float_order, toDouble, held'] at second
  have chain := Double.order_eq_iff.mp (Double.order_eq_trans first second)
  have same : y.signedUnits = z.signedUnits := by simpa using chain
  rw [units, units'] at same
  have positive : (Binary64.unitsPerOne : Int) ≠ 0 := by
    obtain ⟨t, _, unit, _, _⟩ := Binary64.exists_exponents
    rw [unit]
    exact Int.natCast_ne_zero.mpr (Nat.ne_of_gt (Binary64.pow_two_pos t))
  exact Int.eq_of_mul_eq_mul_right positive same

end Number

namespace Value

/-- At some place a double stands between two different integers: the members are found by one key,
the items at one position. -/
inductive DoubleBetween : Value → Value → Value → Prop
  | number {m n : Int} {x : Binary64} (different : m ≠ n) :
      DoubleBetween (.int m) (.number (.float x)) (.int n)
  | item {us vs ws : List Value} {u v w : Value} {i : Nat} (left : us[i]? = some u)
      (middle : vs[i]? = some v) (right : ws[i]? = some w) (inner : DoubleBetween u v w) :
      DoubleBetween (.array us) (.array vs) (.array ws)
  | member {ls ms ns : Members} {u v w : Value} {key : String} (left : (key, u) ∈ ls)
      (middle : ms.lookup key = some v) (right : ns.lookup key = some w)
      (inner : DoubleBetween u v w) : DoubleBetween (.object ls) (.object ms) (.object ns)

inductive ExactIntegers : Value → Prop
  | primitive {v : Value} (h : v.isContainer = false)
      (small : ∀ n, v = .int n → n.natAbs ≤ Nat.pow 2 53) : ExactIntegers v
  | array {items : List Value} (each : ∀ item ∈ items, ExactIntegers item) :
      ExactIntegers (.array items)
  | object {members : Members} (each : ∀ member ∈ members, ExactIntegers member.2) :
      ExactIntegers (.object members)

theorem ExactIntegers.of_array {items : List Value} (h : (Value.array items).ExactIntegers) :
    ∀ item ∈ items, item.ExactIntegers := by
  cases h with
  | primitive h => contradiction
  | array each => exact each

theorem ExactIntegers.of_object {members : Members} (h : (Value.object members).ExactIntegers) :
    ∀ member ∈ members, member.2.ExactIntegers := by
  cases h with
  | primitive h => contradiction
  | object each => exact each

theorem strictEq_numbers {a b : Number} :
    (number a).strictEq (number b) = true ↔ a.order b = some .eq := by
  rw [strictEq, agree_primitive rfl, strictLeaf, beq_eq_decide]
  simp [isContainer]

section Chains

variable {u v w : Value}

theorem eq_or_numbers_of_strictLeaf (same : strictLeaf v w = true) :
    v = w ∨ ∃ a b, v = .number a ∧ w = .number b ∧ a.order b = some .eq := by
  cases v with
  | null => cases w <;> first | contradiction | exact .inl rfl
  | bool b =>
    cases w with
    | bool c => exact .inl (congrArg bool (eq_of_beq same))
    | _ => contradiction
  | number a =>
    cases w with
    | number b => exact .inr ⟨a, b, rfl, rfl, eq_of_beq same⟩
    | _ => contradiction
  | string s =>
    cases w with
    | string t => exact .inl (congrArg string (eq_of_beq same))
    | _ => contradiction
  | _ => cases w <;> contradiction

theorem strictLeaf_chain (first : strictLeaf u v = true) (second : strictLeaf v w = true) :
    strictLeaf u w = true ∨ DoubleBetween u v w := by
  rcases eq_or_numbers_of_strictLeaf first with rfl | ⟨a, b, rfl, rfl, left⟩
  · exact .inl second
  · rcases eq_or_numbers_of_strictLeaf second with rfl | ⟨b', c, same, rfl, right⟩
    · exact .inl first
    · cases same
      rcases Number.order_chain left right with equal | ⟨m, x, n, different, rfl, rfl, rfl⟩
      · exact .inl (beq_iff_eq.mpr equal)
      · exact .inr (.number different)

theorem forall₂_getElem? {R : Value → Value → Prop} {xs ys : List Value} {i : Nat}
    (each : List.Forall₂ R xs ys) (left : xs[i]? = some v) (right : ys[i]? = some w) : R v w := by
  obtain ⟨h, rfl⟩ := List.getElem?_eq_some_iff.mp left
  obtain ⟨h', rfl⟩ := List.getElem?_eq_some_iff.mp right
  exact each.get h h'

theorem strictEq_chain (first : u.strictEq v = true) (second : v.strictEq w = true)
    (clear : ¬ DoubleBetween u v w) : u.strictEq w = true := by
  -- On the left value: a double between integers of two parts stands there in the whole, too.
  induction u generalizing v w with
  | primitive u h =>
    cases agree_iff.mp first with
    | primitive _ middle same =>
      cases agree_iff.mp second with
      | primitive _ right same' =>
        have leaf := (strictLeaf_chain same same').resolve_right clear
        exact agree_iff.mpr (.primitive h right leaf)
      | _ => contradiction
    | _ => contradiction
  | array us ih =>
    cases agree_iff.mp first with
    | primitive left => contradiction
    | @array _ vs each =>
      cases agree_iff.mp second with
      | primitive left => contradiction
      | @array _ ws each' =>
        have size := each.length_eq.trans each'.length_eq
        refine agree_iff.mpr (.array (List.forall₂_iff_get.mpr ⟨size, fun i h h' => ?_⟩))
        have middle : i < vs.length := each.length_eq ▸ h
        refine ih _ (List.get_mem us _) (each.get h middle) (each'.get middle h') fun inner => ?_
        exact clear (.item (List.getElem?_eq_getElem h) (List.getElem?_eq_getElem middle)
          (List.getElem?_eq_getElem h') inner)
  | object ls ih =>
    cases agree_iff.mp first with
    | primitive left => contradiction
    | object size each =>
      cases agree_iff.mp second with
      | primitive left => contradiction
      | object size' each' =>
        refine agree_iff.mpr (.object (size.trans size') fun member inside => ?_)
        obtain ⟨v, found, same⟩ := each member inside
        obtain ⟨w, found', same'⟩ := each' _ (mem_of_lookup found)
        refine ⟨w, found', ih member inside same same' fun inner => ?_⟩
        exact clear (.member inside found found' inner)

theorem DoubleBetween.strictEq_eq_false (h : DoubleBetween u v w) : u.strictEq w = false := by
  induction h with
  | number different =>
    refine Bool.eq_false_iff.mpr fun same => different ?_
    exact Number.eq_of_order (strictEq_numbers.mp same)
  | item left middle right inner ih =>
    refine Bool.eq_false_iff.mpr fun same => ?_
    cases agree_iff.mp same with
    | primitive h => contradiction
    | array each => exact Bool.eq_false_iff.mp ih (forall₂_getElem? each left right)
  | member left middle right inner ih =>
    refine Bool.eq_false_iff.mpr fun same => ?_
    cases agree_iff.mp same with
    | primitive h => contradiction
    | object size each =>
      obtain ⟨w, found, same⟩ := each _ left
      rw [right] at found
      cases found
      exact Bool.eq_false_iff.mp ih same

theorem ExactIntegers.not_doubleBetween (left : u.ExactIntegers) (right : w.ExactIntegers)
    (first : u.strictEq v = true) (second : v.strictEq w = true) : ¬ DoubleBetween u v w := by
  intro between
  -- On the place of the double: the three values stay equal on the way down to it.
  induction between with
  | number different =>
    cases left with
    | primitive _ small =>
      cases right with
      | primitive _ small' =>
        exact different (Number.int_eq_of_between (small _ rfl) (small' _ rfl)
          (strictEq_numbers.mp first) (strictEq_numbers.mp second))
  | item atLeft atMiddle atRight inner ih =>
    cases agree_iff.mp first with
    | primitive h => contradiction
    | array pairs =>
      cases agree_iff.mp second with
      | primitive h => contradiction
      | array pairs' =>
        exact ih (left.of_array _ (List.mem_of_getElem? atLeft))
          (right.of_array _ (List.mem_of_getElem? atRight))
          (forall₂_getElem? pairs atLeft atMiddle) (forall₂_getElem? pairs' atMiddle atRight)
  | member inLeft inMiddle inRight inner ih =>
    cases agree_iff.mp first with
    | primitive h => contradiction
    | object size each =>
      cases agree_iff.mp second with
      | primitive h => contradiction
      | object size' each' =>
        obtain ⟨v, found, same⟩ := each _ inLeft
        rw [inMiddle] at found
        cases found
        obtain ⟨w, found', same'⟩ := each' _ (mem_of_lookup inMiddle)
        rw [inRight] at found'
        cases found'
        exact ih (left.of_object _ inLeft) (right.of_object _ (mem_of_lookup inRight)) same same'

end Chains

/-- Strict equality is transitive exactly as long as no double stands between two different
integers, which it cannot when the outer values hold no integer beyond `2 ^ 53`. -/
theorem strictEq_transitive_iff {u v w : Value} (first : u.strictEq v = true)
    (second : v.strictEq w = true) :
    (u.strictEq w = true ↔ ¬ DoubleBetween u v w) ∧
      (u.ExactIntegers → w.ExactIntegers → u.strictEq w = true) := by
  refine ⟨⟨fun same between => ?_, strictEq_chain first second⟩, fun left right => ?_⟩
  · rw [between.strictEq_eq_false] at same
    contradiction
  · exact strictEq_chain first second (left.not_doubleBetween right first second)

/-- The double `2 ^ 53`, to which the next integer rounds as well. -/
def lastExact : Binary64 :=
  ⟨false, Nat.pow 2 53 * Nat.pow 2 1074, by decide +kernel, Nat.pow 2 52, 1075, by decide +kernel,
    by decide +kernel⟩

theorem strictEq_not_transitive :
    (int 9007199254740993).strictEq (number (.float lastExact)) = true ∧
      (number (.float lastExact)).strictEq (int 9007199254740992) = true ∧
      (int 9007199254740993).strictEq (int 9007199254740992) = false := by
  decide +kernel

theorem strictEq_transitive_iff_lastExact :
    (array [int 9007199254740992]).strictEq (array [number (.float lastExact)]) = true ∧
      (array [number (.float lastExact)]).strictEq (array [int 9007199254740992]) = true ∧
      (array [int 9007199254740992]).ExactIntegers ∧
      ¬ DoubleBetween (array [int 9007199254740992]) (array [number (.float lastExact)])
        (array [int 9007199254740992]) := by
  have first : (array [int 9007199254740992]).strictEq (array [number (.float lastExact)]) = true :=
    by decide +kernel
  have second :
      (array [number (.float lastExact)]).strictEq (array [int 9007199254740992]) = true := by
    decide +kernel
  have exact : (array [int 9007199254740992]).ExactIntegers := by
    refine .array (List.forall_mem_singleton.mpr (.primitive rfl fun n same => ?_))
    cases same
    decide +kernel
  obtain ⟨chains, safe⟩ := strictEq_transitive_iff first second
  exact ⟨first, second, exact, chains.mp (safe exact exact)⟩

end Value

end DataMatch
