import DataMatch.Proofs.UtcText

/-! The text of a moment in UTC is a canonical form: timestamps of one instant have one text,
whatever offset and however many digits they are written with, and timestamps of two instants have
two. -/
namespace DataMatch

namespace Timestamp

open Time

variable {a b : Timestamp}

/-- One date and time of day in UTC, down to the nanosecond. Leap seconds are seconds 60. -/
structure SameInstant (a b : Timestamp) : Prop where
  date : a.toUtc.date = b.toUtc.date
  hour : a.toUtc.hour = b.toUtc.hour
  minute : a.toUtc.minuteOfHour = b.toUtc.minuteOfHour
  second : a.second = b.second
  nanosecond : a.nanosecond = b.nanosecond

def order (a b : Timestamp) : Ordering :=
  (compare a.minute b.minute).then
    ((compare a.second b.second).then (compare a.nanosecond b.nanosecond))

theorem order_eq_eq_iff : a.order b = .eq ↔
    a.minute = b.minute ∧ a.second = b.second ∧ a.nanosecond = b.nanosecond := by
  simp only [order, Ordering.then_eq_eq, Std.compare_eq_iff_eq]

@[simp] theorem localMinute_toUtc (t : Timestamp) : t.toUtc.localMinute = t.minute :=
  Int.add_zero _

theorem compare_minute (a b : Timestamp) :
    compare a.minute b.minute = (a.toUtc.date.order b.toUtc.date).then
      ((compare a.toUtc.hour b.toUtc.hour).then
        (compare a.toUtc.minuteOfHour b.toUtc.minuteOfHour)) := by
  have clock := compare_div_mod (show 0 < 60 by decide) (a.minute % 1440).toNat
    (b.minute % 1440).toNat
  simp only [date, days, hour, minuteOfHour, localMinute_toUtc, Date.order_ofDays]
  rw [compare_ediv_emod (show 0 < 1440 by decide) a.minute, ← clock, ← compare_natCast,
    Int.toNat_of_nonneg (Int.emod_nonneg _ (by decide)),
    Int.toNat_of_nonneg (Int.emod_nonneg _ (by decide))]

theorem minute_eq_iff : a.minute = b.minute ↔ a.toUtc.date = b.toUtc.date ∧
    a.toUtc.hour = b.toUtc.hour ∧ a.toUtc.minuteOfHour = b.toUtc.minuteOfHour := by
  rw [← Std.compare_eq_iff_eq (a := a.minute), compare_minute]
  simp only [Ordering.then_eq_eq, Date.order_eq_eq_iff, Std.compare_eq_iff_eq]

/-- In one second the first has the fraction of the other cut off after fewer places. -/
def CutShort (a b : Timestamp) : Prop :=
  a.minute = b.minute ∧ a.second = b.second ∧ Time.CutShort a.nanosecond b.nanosecond

instance (a b : Timestamp) : Decidable (a.CutShort b) := inferInstanceAs (Decidable (_ ∧ _ ∧ _))

/-- The order of the texts in UTC, which is that of time unless one is the other cut short. -/
def textOrder (a b : Timestamp) : Ordering :=
  if a.CutShort b ∨ b.CutShort a then (a.order b).swap else a.order b

theorem textOrder_eq_eq_iff : a.textOrder b = .eq ↔ a.order b = .eq := by
  unfold textOrder
  split
  · cases a.order b <;> simp
  · rfl

theorem compare_fractions (left : a.Bounded) (right : b.Bounded) :
    (compare a.minute b.minute).then ((compare a.second b.second).then
      (compare (fractionChars a.nanosecond ++ ['Z']) (fractionChars b.nanosecond ++ ['Z']))) =
        a.textOrder b := by
  rw [compare_fraction left.nanosecond right.nanosecond]
  unfold textOrder order
  rw [← Ordering.then_assoc, ← Ordering.then_assoc]
  by_cases same : a.minute = b.minute ∧ a.second = b.second
  · obtain ⟨minute, second⟩ := same
    simp [CutShort, minute, second]
  · have decided : (compare a.minute b.minute).then (compare a.second b.second) ≠ .eq := by
      simpa [Ordering.then_eq_eq] using same
    have uncut : ¬ (a.CutShort b ∨ b.CutShort a) := by
      rintro (cut | cut)
      · exact same ⟨cut.1, cut.2.1⟩
      · exact same ⟨cut.1.symm, cut.2.1.symm⟩
    rw [if_neg uncut, then_of_ne decided, then_of_ne decided]

theorem Bounded.toUtc {t : Timestamp} (bounded : t.Bounded) : t.toUtc.Bounded :=
  ⟨bounded.second, bounded.nanosecond⟩

theorem compare_year_afterYear (left : a.Bounded) (right : b.Bounded) :
    (compare a.toUtc.date.year b.toUtc.date.year).then
      (compare a.toUtc.afterYear b.toUtc.afterYear) = a.textOrder b := by
  rw [compare_afterYear left.toUtc right.toUtc, ← compare_fractions left right, compare_minute,
    Date.order]
  simp only [Ordering.then_assoc]
  rfl

theorem utcChars_eq_iff (left : a.Bounded) (right : b.Bounded) :
    a.utcChars = b.utcChars ↔ a.order b = .eq := by
  rw [← textOrder_eq_eq_iff, ← compare_year_afterYear left right, Ordering.then_eq_eq,
    Std.compare_eq_iff_eq, Std.compare_eq_iff_eq, utcChars_eq, utcChars_eq]
  constructor
  · intro same
    -- Years differ in length beyond four digits, so the texts have to be cut at the year first.
    obtain ⟨year, rest⟩ := yearChars_append_inj same
    exact ⟨year, congrArg ('-' :: ·) rest⟩
  · rintro ⟨year, rest⟩
    rw [year, rest]

theorem sameInstant_iff : a.SameInstant b ↔
    a.minute = b.minute ∧ a.second = b.second ∧ a.nanosecond = b.nanosecond := by
  rw [minute_eq_iff]
  constructor
  · rintro ⟨date, hour, minute, second, nanosecond⟩
    exact ⟨⟨date, hour, minute⟩, second, nanosecond⟩
  · rintro ⟨⟨date, hour, minute⟩, second, nanosecond⟩
    exact ⟨date, hour, minute, second, nanosecond⟩

theorem compare_utcChars (left : a.Bounded) (right : b.Bounded)
    (years : (0 ≤ a.toUtc.date.year ∧ a.toUtc.date.year ≤ 9999) ∧
      0 ≤ b.toUtc.date.year ∧ b.toUtc.date.year ≤ 9999) :
    compare a.utcChars b.utcChars = a.textOrder b := by
  obtain ⟨⟨low, high⟩, low', high'⟩ := years
  have year : compare a.toUtc.date.year.natAbs b.toUtc.date.year.natAbs =
      compare a.toUtc.date.year b.toUtc.date.year := by
    rw [← compare_natCast, Int.natAbs_of_nonneg low, Int.natAbs_of_nonneg low']
  rw [utcChars_eq, utcChars_eq, compare_field (fixedWidth_yearChars low high)
    (fixedWidth_yearChars low' high'), year, compare_year_afterYear left right]

end Timestamp

end DataMatch
