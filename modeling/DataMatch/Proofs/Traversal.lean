import Mathlib.Data.List.Forall2

/-! Sequences that stop at the first error: they succeed when every step does, and otherwise give
the error of the first step that fails. -/
namespace DataMatch

variable {α β ε : Type} {f g : α → Except ε Unit}

theorem bind_eq_ok {x : Except ε α} {next : α → Except ε β} {b : β}
    (h : x.bind next = .ok b) : ∃ a, x = .ok a ∧ next a = .ok b := by
  cases x with
  | error e => contradiction
  | ok a => exact ⟨a, rfl, h⟩

theorem map_eq_ok {x : Except ε α} {h : α → β} {b : β} (mapped : x.map h = .ok b) :
    ∃ a, x = .ok a ∧ h a = b := by
  cases x with
  | error e => contradiction
  | ok a => exact ⟨a, rfl, Except.ok.inj mapped⟩

theorem forall_or_exists_first {P Q : α → Prop} {xs : List α} (each : ∀ x ∈ xs, P x ∨ Q x) :
    (∀ x ∈ xs, P x) ∨ ∃ before x after, xs = before ++ x :: after ∧ (∀ y ∈ before, P y) ∧ Q x := by
  induction xs with
  | nil => exact .inl nofun
  | cons x xs ih =>
    obtain ⟨head, tail⟩ := List.forall_mem_cons.mp each
    rcases head with first | other
    · rcases ih tail with all | ⟨before, y, after, rfl, passed, last⟩
      · exact .inl (List.forall_mem_cons.mpr ⟨first, all⟩)
      · exact .inr ⟨x :: before, y, after, rfl, List.forall_mem_cons.mpr ⟨first, passed⟩, last⟩
    · exact .inr ⟨[], x, xs, rfl, nofun, other⟩

theorem forM_cons (x : α) (xs : List α) :
    (x :: xs).forM f = (do f x; xs.forM f) := rfl

theorem forM_append (xs ys : List α) :
    (xs ++ ys).forM f = (do xs.forM f; ys.forM f) := List.forM_append

theorem forM_congr {xs : List α} (same : ∀ x ∈ xs, f x = g x) : xs.forM f = xs.forM g := by
  induction xs with
  | nil => rfl
  | cons x xs ih =>
    rw [forM_cons, forM_cons, same x List.mem_cons_self,
      ih fun y member => same y (List.mem_cons_of_mem x member)]

theorem forM_eq_ok_iff {xs : List α} : xs.forM f = .ok () ↔ ∀ x ∈ xs, f x = .ok () := by
  induction xs with
  | nil => simp [List.forM, pure, Except.pure]
  | cons x xs ih =>
    rw [forM_cons, List.forall_mem_cons, ← ih]
    cases hx : f x with
    | ok u => exact ⟨fun h => ⟨rfl, h⟩, fun h => h.2⟩
    | error e => exact ⟨nofun, fun h => nomatch h.1⟩

theorem forM_eq_error_of_first {before after : List α} {x : α} {e : ε}
    (passed : ∀ y ∈ before, f y = .ok ()) (failed : f x = .error e) :
    (before ++ x :: after).forM f = .error e := by
  induction before with
  | nil => simp [forM_cons, failed, bind, Except.bind]
  | cons y before ih =>
    have head : f y = .ok () := passed y List.mem_cons_self
    have rest := ih fun z member => passed z (List.mem_cons_of_mem y member)
    rw [List.cons_append, forM_cons, head]
    exact rest

theorem exists_first_of_forM_eq_error {xs : List α} {e : ε} (failed : xs.forM f = .error e) :
    ∃ before x after, xs = before ++ x :: after ∧ (∀ y ∈ before, f y = .ok ()) ∧
      f x = .error e := by
  induction xs with
  | nil => cases failed
  | cons x xs ih =>
    rw [forM_cons] at failed
    cases hx : f x with
    | error e' =>
      rw [hx] at failed
      cases failed
      exact ⟨[], x, xs, rfl, by simp, hx⟩
    | ok u =>
      rw [hx] at failed
      obtain ⟨before, y, after, rfl, passed, hy⟩ := ih failed
      refine ⟨x :: before, y, after, rfl, ?_, hy⟩
      intro z member
      rcases List.mem_cons.mp member with rfl | member
      · exact hx
      · exact passed z member

theorem forM_eq_error_iff {xs : List α} {e : ε} :
    xs.forM f = .error e ↔ ∃ before x after, xs = before ++ x :: after ∧
      (∀ y ∈ before, f y = .ok ()) ∧ f x = .error e := by
  constructor
  · exact exists_first_of_forM_eq_error
  · rintro ⟨before, x, after, rfl, passed, failed⟩
    exact forM_eq_error_of_first passed failed

theorem seq_eq_ok_iff {x y : Except ε Unit} :
    (do x; y) = .ok () ↔ x = .ok () ∧ y = .ok () := by
  cases x <;> simp [bind, Except.bind]

theorem seq_eq_error_iff {x y : Except ε Unit} {e : ε} :
    (do x; y) = .error e ↔ x = .error e ∨ x = .ok () ∧ y = .error e := by
  cases x <;> simp [bind, Except.bind]

theorem mapM_eq_ok_iff {h : α → Except ε β} {xs : List α} {ys : List β} :
    xs.mapM h = .ok ys ↔ List.Forall₂ (fun x y => h x = .ok y) xs ys := by
  induction xs generalizing ys with
  | nil => simp [pure, Except.pure, eq_comm]
  | cons x xs ih =>
    rw [List.mapM_cons]
    constructor
    · intro mapped
      obtain ⟨y, head, mapped⟩ := bind_eq_ok mapped
      obtain ⟨rest, tail, mapped⟩ := bind_eq_ok mapped
      cases mapped
      exact .cons head (ih.mp tail)
    · intro each
      cases each with
      | cons head tail =>
        rw [head, ih.mpr tail]
        rfl

end DataMatch
