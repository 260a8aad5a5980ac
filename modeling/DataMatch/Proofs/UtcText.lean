import DataMatch.Proofs.Calendar
import DataMatch.Proofs.Timestamps

/-! The text of a moment in UTC. Each field after the year has a fixed width, so two texts of the
same year compare field by field. Only the fraction has none: there a text that goes on is below one
that ends, because digits and the point are below the mark at the end. -/
namespace DataMatch

open Numeral Text

namespace Time

section Years

variable {y z : Int} {rest others : List Char}

theorem yearChars_of_plain (low : 0 ≤ y) (high : y ≤ 9999) :
    yearChars y = zeros 4 (y.natAbs : Nat) := by
  have positive : (y.natAbs : Int) = y := by omega
  rw [yearChars, if_pos ⟨low, high⟩, positive]

theorem fixedWidth_yearChars (low : 0 ≤ y) (high : y ≤ 9999) :
    FixedWidth 4 (yearChars y) y.natAbs := by
  rw [yearChars_of_plain low high]
  exact fixedWidth_zeros (by decide) (show y.natAbs < 10000 by omega)

def leadingYear : List Char → Int
  | '-' :: cs => -(Nat.ofDigitChars 10 (cs.takeWhile Char.isDigit) 0 : Int)
  | '+' :: cs => Nat.ofDigitChars 10 (cs.takeWhile Char.isDigit) 0
  | cs => Nat.ofDigitChars 10 (cs.takeWhile Char.isDigit) 0

theorem leading_zeros (width n : Nat) (rest : List Char) :
    Nat.ofDigitChars 10 ((zeros width n ++ '-' :: rest).takeWhile Char.isDigit) 0 = n := by
  have ends : NoDigit ('-' :: rest) := by
    intro c tail shape
    cases shape
    rfl
  rw [takeWhile_digits (digits_zeros width n) ends, value_zeros]

theorem zeros_append_ne {c : Char} (other : c.isDigit = false) (width n : Nat)
    (rest : List Char) : ∀ tail, zeros width n ++ rest ≠ c :: tail := by
  obtain ⟨d, digits, shape⟩ := List.exists_cons_of_ne_nil (zeros_ne_nil width n)
  have digit : d.isDigit = true := digits_zeros width n d (by simp [shape])
  rw [shape]
  rintro tail same
  cases same
  rw [other] at digit
  contradiction

theorem leadingYear_append (y : Int) (rest : List Char) :
    leadingYear (yearChars y ++ '-' :: rest) = y := by
  unfold yearChars
  split
  · rename_i plain
    have text := yearChars_of_plain plain.1 plain.2
    rw [yearChars, if_pos plain] at text
    rw [text, leadingYear.eq_3 _ (zeros_append_ne (by decide) _ _ _)
      (zeros_append_ne (by decide) _ _ _), leading_zeros]
    omega
  · rename_i signed
    split
    · rw [List.cons_append, leadingYear, leading_zeros]
      omega
    · rw [List.cons_append, leadingYear, leading_zeros]
      omega

theorem yearChars_append_inj (same : yearChars y ++ '-' :: rest = yearChars z ++ '-' :: others) :
    y = z ∧ rest = others := by
  have years : y = z := by
    rw [← leadingYear_append y rest, same, leadingYear_append]
  subst years
  exact ⟨rfl, (List.cons.inj (List.append_cancel_left same)).2⟩

end Years

section Fractions

variable {m n : Nat}

def places (n : Nat) : Nat :=
  if n = 0 then 0 else if n % 1000000 = 0 then 3 else if n % 1000 = 0 then 6 else 9

def CutShort (m n : Nat) : Prop :=
  places m < places n ∧ m / Nat.pow 10 (9 - places m) = n / Nat.pow 10 (9 - places m)

instance (m n : Nat) : Decidable (CutShort m n) := inferInstanceAs (Decidable (_ ∧ _))

theorem places_le (n : Nat) : places n ≤ 9 := by
  unfold places
  grind

theorem places_pos (there : n ≠ 0) : 0 < places n := by
  unfold places
  grind

theorem mod_places (n : Nat) : n % Nat.pow 10 (9 - places n) = 0 := by
  unfold places
  split
  · rename_i none
    rw [none, Nat.zero_mod]
  · split
    · assumption
    · split
      · assumption
      · exact Nat.mod_one n

theorem exists_places (there : n ≠ 0) (bound : n < 1000000000) :
    ∃ ds, fractionChars n = '.' :: ds ∧
      FixedWidth (places n) ds (n / Nat.pow 10 (9 - places n)) := by
  simp only [fractionChars, places, if_neg there]
  split
  · exact ⟨_, rfl, fixedWidth_zeros (by decide) (show n / 1000000 < 1000 by omega)⟩
  · split
    · exact ⟨_, rfl, fixedWidth_zeros (by decide) (show n / 1000 < 1000000 by omega)⟩
    · have field := fixedWidth_zeros (show 0 < 9 by decide) (show n < Nat.pow 10 9 from bound)
      exact ⟨_, rfl, by simpa using field⟩

theorem compare_mark {width : Nat} {ds : List Char} (field : FixedWidth width ds n) :
    compare ['Z'] (ds ++ ['Z']) = if width = 0 then .eq else .gt := by
  obtain ⟨rfl, digits, _⟩ := field
  cases ds with
  | nil => rfl
  | cons d ds =>
    obtain ⟨k, small, rfl⟩ := exists_digitChar (digits d List.mem_cons_self)
    have below : ∀ k < 10, compare 'Z' (Nat.digitChar k) = .gt := by decide
    rw [List.cons_append, List.compare_cons_cons, below k small]
    rfl

theorem then_of_ne {o : Ordering} (decided : o ≠ .eq) (other : Ordering) : o.then other = o := by
  cases o with
  | eq => exact absurd rfl decided
  | _ => rfl

/-- Two fractions compare by the places that both have; then the one with more places is below. -/
theorem compare_places (first : m ≠ 0) (second : n ≠ 0) (left : m < 1000000000)
    (right : n < 1000000000) {more : Nat} (total : places n = places m + more) :
    compare (fractionChars m ++ ['Z']) (fractionChars n ++ ['Z']) =
      (compare (m / Nat.pow 10 (9 - places m)) (n / Nat.pow 10 (9 - places m))).then
        (if more = 0 then .eq else .gt) := by
  obtain ⟨cs, text, field⟩ := exists_places first left
  obtain ⟨ds, text', field'⟩ := exists_places second right
  have most := places_le n
  rw [total] at field'
  -- The longer fraction is cut where the shorter one ends, and what is left meets the mark.
  obtain ⟨front, back⟩ := field'.split
  have scale : Nat.pow 10 (9 - places n) * Nat.pow 10 more = Nat.pow 10 (9 - places m) := by
    rw [Nat.pow_eq, Nat.pow_eq, Nat.pow_eq, ← Nat.pow_add]
    congr 1
    omega
  rw [← total, Nat.div_div_eq_div_mul, scale] at front
  rw [text, text', List.cons_append, List.cons_append, compare_cons_self,
    ← List.take_append_drop (places m) ds, List.append_assoc,
    compare_append (field.length.trans front.length.symm), field.compare_eq front,
    compare_mark back]

theorem CutShort.lt (cut : CutShort m n) : m < n := by
  obtain ⟨fewer, same⟩ := cut
  have whole := Nat.div_add_mod m (Nat.pow 10 (9 - places m))
  have floor := Nat.mul_div_le n (Nat.pow 10 (9 - places m))
  rw [mod_places, same, Nat.add_zero] at whole
  have different : m ≠ n := by
    rintro rfl
    exact Nat.lt_irrefl _ fewer
  omega

theorem cutShort_zero (there : n ≠ 0) (bound : n < 1000000000) : CutShort 0 n := by
  have none : 0 / 1000000000 = n / 1000000000 := by omega
  exact ⟨places_pos there, none⟩

theorem compare_no_fraction (there : n ≠ 0) (bound : n < 1000000000) :
    compare (fractionChars 0 ++ ['Z']) (fractionChars n ++ ['Z']) = .gt := by
  obtain ⟨ds, text, -⟩ := exists_places there bound
  rw [text]
  rfl

theorem compare_fraction_of_le (left : m < 1000000000) (right : n < 1000000000)
    (shorter : places m ≤ places n) :
    compare (fractionChars m ++ ['Z']) (fractionChars n ++ ['Z']) =
      if CutShort m n then (compare m n).swap else compare m n := by
  by_cases first : m = 0
  · subst first
    by_cases second : n = 0
    · subst second
      rfl
    · have cut := cutShort_zero second right
      rw [compare_no_fraction second right, if_pos cut, Nat.compare_eq_lt.mpr cut.lt]
      rfl
  · have second : n ≠ 0 := by
      rintro rfl
      have pos := places_pos first
      have zero : places 0 = 0 := rfl
      omega
    obtain ⟨more, total⟩ := Nat.exists_eq_add_of_le shorter
    have whole := mod_places m
    have whole' := mod_places n
    have parts := compare_div_mod (pow_ten_pos (9 - places m)) m n
    rw [compare_places first second left right total]
    rcases Nat.eq_zero_or_pos more with rfl | longer
    · -- With as many places the quotients are all there is to the numbers.
      have uncut : ¬ CutShort m n := fun cut => absurd cut.1 (by omega)
      rw [total, Nat.add_zero] at whole'
      rw [if_pos rfl, if_neg uncut, parts, whole, whole']
      rfl
    · rw [if_neg (by omega)]
      -- If the places of the first are equal, its text meets the mark while the other goes on.
      by_cases same : m / Nat.pow 10 (9 - places m) = n / Nat.pow 10 (9 - places m)
      · have cut : CutShort m n := ⟨by omega, same⟩
        rw [if_pos cut, Nat.compare_eq_lt.mpr cut.lt, Std.compare_eq_iff_eq.mpr same]
        rfl
      · have decided := mt Std.compare_eq_iff_eq.mp same
        rw [if_neg fun cut => same cut.2, parts, then_of_ne decided, then_of_ne decided]

/-- Fractions compare as they are written the way the numbers do, unless one is the other cut short:
then the order is turned round. -/
theorem compare_fraction (left : m < 1000000000) (right : n < 1000000000) :
    compare (fractionChars m ++ ['Z']) (fractionChars n ++ ['Z']) =
      if CutShort m n ∨ CutShort n m then (compare m n).swap else compare m n := by
  rcases Nat.le_total (places m) (places n) with shorter | longer
  · have uncut : ¬ CutShort n m := fun cut => absurd cut.1 (Nat.not_lt_of_le shorter)
    simp only [compare_fraction_of_le left right shorter, uncut, or_false]
  · have uncut : ¬ CutShort m n := fun cut => absurd cut.1 (Nat.not_lt_of_le longer)
    have numbers : compare m n = (compare n m).swap := Std.OrientedCmp.eq_swap
    have texts : compare (fractionChars m ++ ['Z']) (fractionChars n ++ ['Z']) =
        (compare (fractionChars n ++ ['Z']) (fractionChars m ++ ['Z'])).swap :=
      Std.OrientedCmp.eq_swap
    rw [texts, compare_fraction_of_le right left longer, numbers]
    simp only [uncut, false_or]
    split <;> rfl

end Fractions

end Time

namespace Timestamp

open Time

variable {a b t : Timestamp}

def afterYear (t : Timestamp) : List Char :=
  '-' :: (zeros 2 t.date.month ++ '-' :: (zeros 2 t.date.day ++ 'T' :: (zeros 2 t.hour ++
    ':' :: (zeros 2 t.minuteOfHour ++ ':' :: (zeros 2 t.second ++
      (fractionChars t.nanosecond ++ ['Z']))))))

theorem utcChars_eq (t : Timestamp) :
    t.utcChars = yearChars t.toUtc.date.year ++ t.toUtc.afterYear := by
  simp only [utcChars, localChars, afterYear, List.append_assoc, List.cons_append]

theorem hour_lt (t : Timestamp) : t.hour < 24 := by
  unfold hour
  omega

theorem minuteOfHour_lt (t : Timestamp) : t.minuteOfHour < 60 := by
  unfold minuteOfHour
  omega

theorem date_valid (t : Timestamp) : t.date.isValid = true := Date.isValid_ofDays _

theorem fixedWidth_month (t : Timestamp) : FixedWidth 2 (zeros 2 t.date.month) t.date.month := by
  have bounds := (Date.isValid_iff.mp t.date_valid).1
  exact fixedWidth_zeros (by decide) (show t.date.month < 100 by omega)

theorem fixedWidth_day (t : Timestamp) : FixedWidth 2 (zeros 2 t.date.day) t.date.day := by
  have bounds := (Date.isValid_iff.mp t.date_valid).2
  have most := Date.daysInMonth_le t.date.year t.date.month
  exact fixedWidth_zeros (by decide) (show t.date.day < 100 by omega)

theorem fixedWidth_hour (t : Timestamp) : FixedWidth 2 (zeros 2 t.hour) t.hour :=
  fixedWidth_zeros (by decide) (show t.hour < 100 from Nat.lt_trans t.hour_lt (by decide))

theorem fixedWidth_minute (t : Timestamp) :
    FixedWidth 2 (zeros 2 t.minuteOfHour) t.minuteOfHour :=
  fixedWidth_zeros (by decide)
    (show t.minuteOfHour < 100 from Nat.lt_trans t.minuteOfHour_lt (by decide))

theorem fixedWidth_second (bounded : t.Bounded) : FixedWidth 2 (zeros 2 t.second) t.second := by
  have bound := bounded.second
  exact fixedWidth_zeros (by decide) (show t.second < 100 by omega)

theorem compare_field {width m n : Nat} {cs ds : List Char} (left : FixedWidth width cs m)
    (right : FixedWidth width ds n) (rest others : List Char) :
    compare (cs ++ rest) (ds ++ others) = (compare m n).then (compare rest others) := by
  rw [compare_append (left.length.trans right.length.symm), left.compare_eq right]

theorem compare_afterYear (left : a.Bounded) (right : b.Bounded) :
    compare a.afterYear b.afterYear =
      (compare a.date.month b.date.month).then ((compare a.date.day b.date.day).then
        ((compare a.hour b.hour).then ((compare a.minuteOfHour b.minuteOfHour).then
          ((compare a.second b.second).then
            (compare (fractionChars a.nanosecond ++ ['Z'])
              (fractionChars b.nanosecond ++ ['Z'])))))) := by
  have second := compare_field (fixedWidth_second left) (fixedWidth_second right)
  simp only [afterYear, compare_cons_self, compare_field a.fixedWidth_month b.fixedWidth_month,
    compare_field a.fixedWidth_day b.fixedWidth_day,
    compare_field a.fixedWidth_hour b.fixedWidth_hour,
    compare_field a.fixedWidth_minute b.fixedWidth_minute, second]

end Timestamp

end DataMatch
