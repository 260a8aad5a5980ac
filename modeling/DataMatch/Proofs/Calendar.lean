import DataMatch.Time.Calendar

/-! The calendar counts days without a gap. Every day has a valid date, from which the day is got
back, and a later day has a later date. -/
namespace DataMatch.Date

theorem daysBeforeYear_succ (year : Int) :
    daysBeforeYear (year + 1) = daysBeforeYear year + if isLeap year then 366 else 365 := by
  simp only [daysBeforeYear, isLeap, Bool.and_eq_true, Bool.or_eq_true, bne_iff_ne, beq_iff_eq]
  split <;> omega

theorem daysBeforeYear_mono {year later : Int} (h : year ≤ later) :
    daysBeforeYear year ≤ daysBeforeYear later := by
  unfold daysBeforeYear
  omega

/-- The quotient by the mean length of a year misses the year of a day by one at most, and the two
comparisons that follow it correct that. -/
theorem yearOfDay_bounds (days : Int) :
    daysBeforeYear (yearOfDay days) ≤ days ∧ days < daysBeforeYear (yearOfDay days + 1) := by
  unfold yearOfDay
  simp only
  generalize quotient : days * 400 / 146097 = guess
  have above : daysBeforeYear (guess - 1) ≤ days := by
    unfold daysBeforeYear
    omega
  have below : days < daysBeforeYear (guess + 1 + 1) := by
    unfold daysBeforeYear
    omega
  split
  · rename_i later
    exact ⟨later, below⟩
  · rename_i notLater
    split
    · rename_i earlier
      rw [Int.sub_add_cancel]
      exact ⟨above, earlier⟩
    · omega

theorem daysBeforeMonth_succ (year : Int) {month : Nat} (pos : 1 ≤ month) :
    daysBeforeMonth year (month + 1) = daysBeforeMonth year month + daysInMonth year month := by
  obtain ⟨before, rfl⟩ : ∃ before, month = before + 1 := ⟨month - 1, by omega⟩
  rfl

theorem daysBeforeMonth_mono (year : Int) {month later : Nat} (h : month ≤ later) :
    daysBeforeMonth year month ≤ daysBeforeMonth year later := by
  induction h with
  | refl => exact Nat.le_refl _
  | @step between h ih =>
    cases between with
    | zero => simpa [daysBeforeMonth] using ih
    | succ before => exact Nat.le_trans ih (Nat.le_add_right _ _)

theorem daysBeforeMonth_thirteen (year : Int) :
    daysBeforeMonth year 13 = if isLeap year then 366 else 365 := by
  simp only [daysBeforeMonth, daysInMonth]
  split <;> rfl

theorem daysBeforeYear_add_months (year : Int) :
    daysBeforeYear year + (daysBeforeMonth year 13 : Nat) = daysBeforeYear (year + 1) := by
  rw [daysBeforeYear_succ, daysBeforeMonth_thirteen]
  split <;> rfl

theorem daysInMonth_le (year : Int) (month : Nat) : daysInMonth year month ≤ 31 := by
  unfold daysInMonth
  grind

def order (d e : Date) : Ordering :=
  (compare d.year e.year).then ((compare d.month e.month).then (compare d.day e.day))

section Order

variable {d e : Date}

theorem order_swap (d e : Date) : (d.order e).swap = e.order d := by
  simp only [order, Ordering.swap_then, ← Std.OrientedOrd.eq_swap]

theorem order_eq_eq_iff : d.order e = .eq ↔ d = e := by
  simp only [order, Ordering.then_eq_eq, Std.compare_eq_iff_eq]
  constructor
  · intro ⟨year, month, day⟩
    cases d
    cases e
    simp_all
  · rintro rfl
    exact ⟨rfl, rfl, rfl⟩

theorem isValid_iff : d.isValid = true ↔
    (1 ≤ d.month ∧ d.month ≤ 12) ∧ 1 ≤ d.day ∧ d.day ≤ daysInMonth d.year d.month := by
  simp [isValid, and_assoc]

theorem ordinal_le (valid : d.isValid = true) {later : Nat} (h : d.month + 1 ≤ later) :
    d.ordinal ≤ daysBeforeMonth d.year later := by
  obtain ⟨month, day⟩ := isValid_iff.mp valid
  have next := daysBeforeMonth_succ d.year month.1
  have later := daysBeforeMonth_mono d.year h
  unfold ordinal
  omega

theorem toDays_bounds (valid : d.isValid = true) :
    daysBeforeYear d.year ≤ d.toDays ∧ d.toDays < daysBeforeYear (d.year + 1) := by
  obtain ⟨month, day⟩ := isValid_iff.mp valid
  have inside : d.ordinal ≤ daysBeforeMonth d.year 13 := ordinal_le valid (by omega)
  have whole := daysBeforeYear_add_months d.year
  unfold toDays ordinal at *
  omega

theorem toDays_lt_of_order (left : d.isValid = true) (right : e.isValid = true)
    (before : d.order e = .lt) : d.toDays < e.toDays := by
  simp only [order, Ordering.then_eq_lt, Int.compare_eq_lt, Nat.compare_eq_lt,
    Std.compare_eq_iff_eq] at before
  rcases before with year | ⟨year, month | ⟨month, day⟩⟩
  · have between := daysBeforeYear_mono (Int.add_one_le_of_lt year)
    have first := (toDays_bounds left).2
    have second := (toDays_bounds right).1
    omega
  · have inside := ordinal_le left month
    have day := (isValid_iff.mp right).2.1
    unfold toDays
    rw [year] at inside ⊢
    unfold ordinal at *
    omega
  · unfold toDays ordinal
    rw [year, month]
    omega

theorem compare_toDays (left : d.isValid = true) (right : e.isValid = true) :
    compare d.toDays e.toDays = d.order e := by
  cases h : d.order e with
  | lt => exact Int.compare_eq_lt.mpr (toDays_lt_of_order left right h)
  | eq =>
    rw [order_eq_eq_iff.mp h]
    exact Std.ReflCmp.compare_self
  | gt =>
    have after : e.order d = .lt := by rw [← order_swap, h]; rfl
    exact Int.compare_eq_gt.mpr (toDays_lt_of_order right left after)

end Order

section Days

theorem monthDay_spec (year : Int) {fuel month offset : Nat} (pos : 1 ≤ month)
    (left : month + fuel = 12)
    (inside : daysBeforeMonth year month + offset < daysBeforeMonth year 13) :
    ∃ m day, monthDay year fuel month offset = (m, day) ∧ (1 ≤ m ∧ m ≤ 12) ∧
      (1 ≤ day ∧ day ≤ daysInMonth year m) ∧
      daysBeforeMonth year m + day = daysBeforeMonth year month + offset + 1 := by
  -- On the months that are left. The day of the year that is looked for stays the same.
  induction fuel generalizing month offset with
  | zero =>
    obtain rfl : month = 12 := left
    have last : daysBeforeMonth year 13 = _ := daysBeforeMonth_succ year pos
    exact ⟨12, offset + 1, rfl, by decide, by omega, by omega⟩
  | succ fuel ih =>
    rw [monthDay]
    have next := daysBeforeMonth_succ year pos
    split
    · exact ⟨month, offset + 1, rfl, by omega, by omega, by omega⟩
    · rename_i beyond
      obtain ⟨m, day, found, bounds, days, same⟩ :=
        @ih (month + 1) (offset - daysInMonth year month) (by omega) (by omega) (by omega)
      exact ⟨m, day, found, bounds, days, by omega⟩

theorem ofDays_spec (days : Int) : (ofDays days).isValid = true ∧ (ofDays days).toDays = days := by
  obtain ⟨low, high⟩ := yearOfDay_bounds days
  have whole := daysBeforeYear_add_months (yearOfDay days)
  have first : daysBeforeMonth (yearOfDay days) 1 = 0 := rfl
  obtain ⟨m, day, found, month, inside, same⟩ :=
    @monthDay_spec (yearOfDay days) 11 1 (days - daysBeforeYear (yearOfDay days)).toNat
      (by decide) rfl (by omega)
  have date : ofDays days = ⟨yearOfDay days, m, day⟩ := by
    simp only [ofDays, found]
  rw [date]
  refine ⟨isValid_iff.mpr ⟨month, inside⟩, ?_⟩
  simp only [toDays, ordinal]
  omega

theorem isValid_ofDays (days : Int) : (ofDays days).isValid = true := (ofDays_spec days).1

@[simp] theorem toDays_ofDays (days : Int) : (ofDays days).toDays = days := (ofDays_spec days).2

theorem order_ofDays (m n : Int) : (ofDays m).order (ofDays n) = compare m n := by
  rw [← compare_toDays (isValid_ofDays m) (isValid_ofDays n), toDays_ofDays, toDays_ofDays]

end Days

end DataMatch.Date
