import DataMatch.Error

/-! Walks over the data. A walk knows the path it is at: it pushes a segment before it goes down and
pops it when it comes back, and a failure leaves the path where it happened. -/
namespace DataMatch

structure Failure where
  location : Path
  error : CheckError
deriving DecidableEq, Repr

abbrev Outcome := Except Failure Unit

/-- A step at the current path, which it may move and where it may stop with an error. -/
abbrev Walk := EStateM CheckError Path Unit

def Verdict.at (v : Verdict) (path : Path) : Outcome :=
  v.mapError fun e => ⟨path, e⟩

namespace Walk

def settle (verdict : Path → Verdict) : Walk := fun path =>
  match verdict path with
  | .ok () => .ok () path
  | .error e => .error e path

def misused (m : Misuse) : Walk := settle fun path => .error (.misuse path m)

def under (segment : String) (w : Walk) : Walk := do
  modify (·.push segment)
  w
  modify Path.pop

def outcome (w : Walk) (path : Path) : Outcome :=
  match w path with
  | .ok () _ => .ok ()
  | .error e after => .error ⟨after, e⟩

def Balanced (w : Walk) : Prop := ∀ path after, w path = .ok () after → after = path

theorem run_bind (w : Walk) (next : Unit → Walk) (path : Path) :
    (w >>= next) path = match w path with
      | .ok u middle => next u middle
      | .error e after => .error e after := by
  cases h : w path <;> simp [bind, EStateM.bind, h]

theorem run_under (segment : String) (w : Walk) (path : Path) :
    under segment w path = match w (path.push segment) with
      | .ok u after => .ok u after.pop
      | .error e after => .error e after := by
  unfold under
  rw [run_bind]
  change (w >>= fun _ => modify Path.pop) (path.push segment) = _
  rw [run_bind]
  cases w (path.push segment) <;> rfl

theorem pure_balanced : Balanced (pure ()) := by
  intro path after h
  cases h
  rfl

theorem settle_balanced (verdict : Path → Verdict) : (settle verdict).Balanced := by
  intro path after h
  unfold settle at h
  split at h
  · cases h
    rfl
  · contradiction

theorem under_balanced (segment : String) {w : Walk} (inner : w.Balanced) :
    (under segment w).Balanced := by
  intro path after h
  rw [run_under] at h
  split at h
  · rename_i below hw
    cases h
    rw [inner _ below hw, Path.pop_push]
  · contradiction

theorem bind_balanced {w : Walk} {next : Unit → Walk} (first : w.Balanced)
    (second : (next ()).Balanced) : Balanced (w >>= next) := by
  intro path after h
  rw [run_bind] at h
  split at h
  · rename_i middle hw
    rw [second middle after h, first path middle hw]
  · contradiction

@[simp] theorem outcome_settle (verdict : Path → Verdict) (path : Path) :
    (settle verdict).outcome path = (verdict path).at path := by
  unfold outcome settle Verdict.at
  cases verdict path <;> rfl

@[simp] theorem outcome_misused (m : Misuse) (path : Path) :
    (misused m).outcome path = .error ⟨path, .misuse path m⟩ := rfl

@[simp] theorem outcome_under (segment : String) (w : Walk) (path : Path) :
    (under segment w).outcome path = w.outcome (path.push segment) := by
  unfold outcome
  rw [run_under]
  cases w (path.push segment) <;> rfl

theorem outcome_bind {w : Walk} {next : Unit → Walk} (first : w.Balanced) (path : Path) :
    outcome (w >>= next) path = (do w.outcome path; (next ()).outcome path) := by
  unfold outcome
  rw [run_bind]
  cases hw : w path with
  | ok u middle =>
    rw [first path middle hw]
    rfl
  | error e after => rfl

/-- A balanced walk is determined by its outcome: it ends where it began, or at the failure. -/
theorem Balanced.run_eq {w : Walk} (balanced : w.Balanced) (path : Path) :
    w path = match w.outcome path with
      | .ok () => .ok () path
      | .error f => .error f.error f.location := by
  unfold outcome
  cases hw : w path with
  | ok u after => rw [balanced path after hw]
  | error e after => rfl

end Walk

end DataMatch
