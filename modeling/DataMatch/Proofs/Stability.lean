import DataMatch.Proofs.Instants
import DataMatch.Proofs.Transforms
import Mathlib.Data.List.DropRight

/-! Transforms that normalize. What they make of a value they leave as it is, so a value passes the
equality check against its own normal form. -/
namespace DataMatch

namespace Text

open List

theorem trimChars_idempotent (cs : List Char) : trimChars (trimChars cs) = trimChars cs := by
  have trimmed (cs : List Char) : trimChars cs = rdropWhile isBlank (dropWhile isBlank cs) := rfl
  have front : dropWhile isBlank (trimChars cs) = trimChars cs := by
    rw [dropWhile_eq_self_iff, trimmed]
    intro there
    have kept := rdropWhile_prefix isBlank (dropWhile isBlank cs)
    rw [kept.getElem there]
    exact dropWhile_get_zero_not isBlank cs _
  rw [trimmed (trimChars cs), front, trimmed cs, rdropWhile_idempotent]

theorem trim_idempotent (s : String) : trim (trim s) = trim s := by
  simp only [trim, String.toList_ofList, trimChars_idempotent]

end Text

namespace Timestamp

open Text Time

variable {a t : Timestamp} {n : Nat} {cs : List Char}

theorem fraction_fractionChars (bound : n < 1000000000) : Fraction (fractionChars n) n := by
  by_cases none : n = 0
  · subst none
    exact .none
  · obtain ⟨ds, text, field⟩ := exists_places none bound
    have short : ds.length ≤ 9 := by
      rw [field.length]
      exact places_le n
    have value : nanoseconds ds = n := by
      rw [nanoseconds_eq, List.take_of_length_le short, field.value, field.length]
      exact Nat.div_mul_cancel (Nat.dvd_of_mod_eq_zero (mod_places n))
    have there : ds ≠ [] := by
      apply List.length_pos_iff.mp
      rw [field.length]
      exact places_pos none
    have read := Fraction.point there field.digits
    rwa [value, ← text] at read

theorem denotes_utcChars (bounded : a.Bounded)
    (year : 0 ≤ a.toUtc.date.year ∧ a.toUtc.date.year ≤ 9999) : Denotes a.utcChars a.toUtc := by
  obtain ⟨low, high⟩ := year
  have years : ((a.toUtc.date.year.natAbs : Nat) : Int) = a.toUtc.date.year := by omega
  have valid := a.toUtc.date_valid
  have hour := a.toUtc.hour_lt
  have minute := a.toUtc.minuteOfHour_lt
  have read := Denotes.timestamp (fixedWidth_yearChars low high) a.toUtc.fixedWidth_month
    a.toUtc.fixedWidth_day (show isSeparator 'T' = true from rfl) a.toUtc.fixedWidth_hour
    a.toUtc.fixedWidth_minute (fixedWidth_second bounded)
    (fraction_fractionChars bounded.nanosecond) (.utc (.inl rfl)) (by rwa [years])
    ⟨by omega, by omega, bounded.second⟩
  have moment : a.toUtc.date.toDays * 1440 +
      (a.toUtc.hour * 60 + a.toUtc.minuteOfHour : Nat) - 0 = a.minute := by
    rw [date, Date.toDays_ofDays, days, localMinute_toUtc]
    simp only [Timestamp.hour, minuteOfHour, localMinute_toUtc]
    omega
  rw [years, moment] at read
  rw [utcChars_eq]
  exact read

theorem Denotes.begins (denotes : Denotes cs t) :
    ∃ c rest, cs = c :: rest ∧ c.isDigit = true := by
  obtain ⟨year, -⟩ := denotes
  obtain ⟨c, digits, rfl⟩ := List.exists_cons_of_length_eq_add_one year.length
  exact ⟨c, _, rfl, year.digits c List.mem_cons_self⟩

/-- A year of another size carries a sign, with which no timestamp begins. -/
theorem not_denotes_utcChars (year : ¬ (0 ≤ a.toUtc.date.year ∧ a.toUtc.date.year ≤ 9999)) :
    ¬ Denotes a.utcChars t := by
  rw [utcChars_eq, yearChars, if_neg year, List.cons_append]
  intro denotes
  obtain ⟨c, rest, shape, digit⟩ := denotes.begins
  obtain ⟨rfl, -⟩ := List.cons.inj shape
  revert digit
  split <;> decide

theorem utcChars_of_denotes (bounded : a.Bounded) (denotes : Denotes a.utcChars t) :
    t.utcChars = a.utcChars := by
  by_cases year : 0 ≤ a.toUtc.date.year ∧ a.toUtc.date.year ≤ 9999
  · have again := (denotes_utcChars bounded year).ofChars?_eq
    rw [denotes.ofChars?_eq, Option.some.injEq] at again
    rw [again]
    rfl
  · exact absurd denotes (not_denotes_utcChars year)

theorem normalize?_idempotent (s : String) :
    (normalize? ((normalize? s).getD s)).getD ((normalize? s).getD s) = (normalize? s).getD s := by
  cases read : ofText? s with
  | none => simp [normalize?, read]
  | some a =>
    have text : (normalize? s).getD s = String.ofList a.utcChars := by
      rw [normalize?, read]
      rfl
    rw [text]
    cases again : ofText? (String.ofList a.utcChars) with
    | none => simp [normalize?, again]
    | some t =>
      have denotes := ofText?_eq_some_iff.mp again
      rw [String.toList_ofList] at denotes
      have bounded := (ofText?_eq_some_iff.mp read).bounded
      rw [normalize?, again, Option.map_some, utcChars_of_denotes bounded denotes]
      rfl

end Timestamp

namespace Transform

/-- What the transform makes of a value is the value itself or a primitive, and it leaves that as it
is. -/
structure Normalizes (f : Value → Value) : Prop where
  idempotent : ∀ v, f (f v) = f v
  cases : ∀ v, f v = v ∨ (f v).isContainer = false

theorem Normalizes.distinctKeys {f : Value → Value} (normalizes : Normalizes f) {v : Value}
    (distinct : v.DistinctKeys) : (f v).DistinctKeys := by
  rcases normalizes.cases v with same | primitive
  · rwa [same]
  · exact .primitive primitive

theorem onText_normalizes {g : String → String} (idempotent : ∀ s, g (g s) = g s) :
    Normalizes (onText g) where
  idempotent v := by
    cases v with
    | string s => rw [onText, onText, idempotent]
    | _ => rfl
  cases v := by
    cases v with
    | string s => exact .inr rfl
    | _ => exact .inl rfl

theorem length_normalizes : Normalizes length where
  idempotent v := by cases v <;> rfl
  cases v := by
    cases v with
    | string s => exact .inr rfl
    | array items => exact .inr rfl
    | object members => exact .inr rfl
    | _ => exact .inl rfl

theorem string_normalizes : Normalizes string where
  idempotent v := by cases v <;> rfl
  cases v := by cases v <;> exact .inr rfl

theorem number_cases (v : Value) : number v = v ∨ ∃ x, number v = .number (.float x) := by
  unfold number
  split
  · exact .inl rfl
  · exact .inl rfl
  · exact .inl rfl
  · split
    · exact .inr ⟨_, rfl⟩
    · exact .inl rfl

theorem number_normalizes : Normalizes number where
  idempotent v := by
    rcases number_cases v with same | ⟨x, changed⟩
    · rw [same, same]
    · rw [changed]
      rfl
  cases v := by
    rcases number_cases v with same | ⟨x, changed⟩
    · exact .inl same
    · rw [changed]
      exact .inr rfl

theorem exists_normalizing {name : String}
    (member : name ∈ ["length", "trim", "string", "number", "utc"]) :
    ∃ f, named? name = some ⟨name, f⟩ ∧ Normalizes f := by
  simp only [List.mem_cons, List.not_mem_nil, or_false] at member
  rcases member with rfl | rfl | rfl | rfl | rfl
  · exact ⟨_, rfl, length_normalizes⟩
  · exact ⟨_, rfl, onText_normalizes Text.trim_idempotent⟩
  · exact ⟨_, rfl, string_normalizes⟩
  · exact ⟨_, rfl, number_normalizes⟩
  · exact ⟨_, rfl, onText_normalizes Timestamp.normalize?_idempotent⟩

/-- Normalizing transforms are stable. -/
theorem normalizing_stable {name : String}
    (member : name ∈ ["length", "trim", "string", "number", "utc"]) :
    ∃ f, named? name = some f ∧ (∀ v, f.apply (f.apply v) = f.apply v) ∧
      ∀ v : Value, v.isObject = false → v.DistinctKeys → ∀ check ∈ equalities,
        ∀ message fields path,
          (f.directive check (f.apply v) message fields).compare (some v) path = .ok () := by
  obtain ⟨f, named, normalizes⟩ := exists_normalizing member
  refine ⟨⟨name, f⟩, named, normalizes.idempotent, ?_⟩
  intro v shape distinct check equality message fields path
  have normal : f (f v) = f v := normalizes.idempotent v
  have distinct' : (f (f v)).DistinctKeys := by
    rw [normal]
    exact normalizes.distinctKeys distinct
  exact equality_of_same equality normal.symm distinct' shape message fields path

theorem normalizing_stable_tenThousand :
    ∃ utc length, named? "utc" = some utc ∧ named? "length" = some length ∧
      utc.apply (.string "9999-12-31T23:30:60.5-00:30") =
        .string "+10000-01-01T00:00:60.500Z" ∧
      utc.apply (utc.apply (.string "9999-12-31T23:30:60.5-00:30")) =
        .string "+10000-01-01T00:00:60.500Z" ∧
      (utc.directive "strictEqual" (.string "+10000-01-01T00:00:60.500Z") none []).compare
        (some (.string "9999-12-31T23:30:60.5-00:30")) .root = .ok () ∧
      (length.directive "equal" (.int 1) none []).compare
        (some (.array [.object [("id", .null)]])) .root = .ok () := by
  obtain ⟨utc, known, again, passes⟩ := @normalizing_stable "utc" (by decide)
  obtain ⟨length, known', -, passes'⟩ := @normalizing_stable "length" (by decide)
  obtain rfl : ⟨"utc", Transform.utc⟩ = utc := Option.some.inj known
  obtain rfl : ⟨"length", Transform.length⟩ = length := Option.some.inj known'
  have text : Transform.utc (.string "9999-12-31T23:30:60.5-00:30") =
      .string "+10000-01-01T00:00:60.500Z" := congrArg Value.string (by decide +kernel)
  have distinct : (Value.array [.object [("id", .null)]]).DistinctKeys := by
    refine .array (List.forall_mem_singleton.mpr ?_)
    exact .object (by decide) (List.forall_mem_singleton.mpr (.primitive rfl))
  refine ⟨_, _, known, known', text, (again _).trans text, ?_,
    passes' _ rfl distinct "equal" (by decide) none [] .root⟩
  rw [← text]
  exact passes _ rfl (.primitive rfl) "strictEqual" (by decide) none [] .root

end Transform

end DataMatch
