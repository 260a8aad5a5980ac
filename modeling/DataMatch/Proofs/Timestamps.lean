import DataMatch.Proofs.FixedWidth

/-! Which texts are timestamps, and what they denote. Reading gives a timestamp exactly for the
texts of the grammar below; the digits of a fraction after the ninth are the only ones that do not
count. -/
namespace DataMatch

namespace Timestamp

open Numeral Text

def nanoseconds (digits : List Char) : Nat :=
  Nat.ofDigitChars 10 ((digits ++ List.replicate 9 '0').take 9) 0

inductive Fraction : List Char → Nat → Prop
  | none : Fraction [] 0
  | point {digits : List Char} (there : digits ≠ []) (only : Digits digits) :
      Fraction ('.' :: digits) (nanoseconds digits)

inductive Zone : List Char → Int → Prop
  | utc {letter : Char} (mark : letter = 'Z' ∨ letter = 'z') : Zone [letter] 0
  | shifted {sign : Char} {hours minutes : List Char} {h m : Nat}
      (signed : sign = '+' ∨ sign = '-' ∨ sign = '\u2212') (first : FixedWidth 2 hours h)
      (second : FixedWidth 2 minutes m) (bounds : h ≤ 23 ∧ m ≤ 59) :
      Zone (sign :: (hours ++ ':' :: minutes))
        (if sign = '+' then (h * 60 + m : Int) else -(h * 60 + m : Int))

/-- The text is a timestamp for this moment: its local date and time of day, less its offset. -/
inductive Denotes : List Char → Timestamp → Prop
  | timestamp {years months days hours minutes seconds fraction zone : List Char} {separator : Char}
      {y mo d h mi s n : Nat} {offset : Int}
      (year : FixedWidth 4 years y) (month : FixedWidth 2 months mo) (day : FixedWidth 2 days d)
      (separated : isSeparator separator = true) (hour : FixedWidth 2 hours h)
      (minute : FixedWidth 2 minutes mi) (second : FixedWidth 2 seconds s)
      (part : Fraction fraction n) (zoned : Zone zone offset)
      (valid : (⟨y, mo, d⟩ : Date).isValid = true) (clock : h ≤ 23 ∧ mi ≤ 59 ∧ s ≤ 60) :
      Denotes (years ++ '-' :: (months ++ '-' :: (days ++ separator :: (hours ++ ':' :: (minutes ++
        ':' :: (seconds ++ (fraction ++ zone)))))))
        ⟨(⟨y, mo, d⟩ : Date).toDays * 1440 + (h * 60 + mi : Nat) - offset, s, n, offset⟩

section Reading

variable {cs rest : List Char} {n width : Nat}

theorem takeDigits_append {ds : List Char} (pos : 0 < width) (field : FixedWidth width ds n)
    (rest : List Char) : takeDigits width (ds ++ rest) = some (n, rest) := by
  obtain ⟨rfl, digits, value⟩ := field
  have there : ds ≠ [] := List.length_pos_iff.mp pos
  rw [takeDigits, if_pos (by simp), List.take_left, List.drop_left,
    readDigits_eq_some_iff.mpr ⟨there, digits, value⟩]
  rfl

theorem takeDigits_eq_some_iff (pos : 0 < width) :
    takeDigits width cs = some (n, rest) ↔ ∃ ds, FixedWidth width ds n ∧ cs = ds ++ rest := by
  constructor
  · intro read
    unfold takeDigits at read
    split at read
    · rename_i long
      obtain ⟨m, digits, same⟩ := Option.map_eq_some_iff.mp read
      cases same
      obtain ⟨there, only, value⟩ := readDigits_eq_some_iff.mp digits
      exact ⟨_, ⟨List.length_take_of_le long, only, value⟩, (List.take_append_drop width cs).symm⟩
    · contradiction
  · rintro ⟨ds, field, rfl⟩
    exact takeDigits_append pos field rest

theorem takeChar_cons (c : Char) (cs : List Char) : takeChar c (c :: cs) = some cs := if_pos rfl

theorem takeChar_eq_some_iff {c : Char} : takeChar c cs = some rest ↔ cs = c :: rest := by
  cases cs with
  | nil => simp [takeChar]
  | cons d cs =>
    rw [takeChar, List.cons.injEq]
    split
    · rename_i same
      simp [same]
    · rename_i other
      simp [other]

theorem nanoseconds_eq (digits : List Char) :
    nanoseconds digits = Nat.ofDigitChars 10 (digits.take 9) 0 *
      Nat.pow 10 (9 - (digits.take 9).length) := by
  have filled : (digits ++ List.replicate 9 '0').take 9 =
      digits.take 9 ++ List.replicate (9 - (digits.take 9).length) '0' := by
    rw [List.take_append, List.take_replicate]
    congr 2
    rw [List.length_take]
    omega
  rw [nanoseconds, filled, Nat.ofDigitChars_append, Nat.ofDigitChars_replicate_zero, Nat.mul_comm]
  rfl

theorem nanoseconds_lt {digits : List Char} (only : Digits digits) :
    nanoseconds digits < 1000000000 := by
  have filled : Digits ((digits ++ List.replicate 9 '0').take 9) := by
    intro c member
    rcases List.mem_append.mp (List.mem_of_mem_take member) with own | added
    · exact only c own
    · rw [List.eq_of_mem_replicate added]
      rfl
  have below := value_lt filled
  have length : ((digits ++ List.replicate 9 '0').take 9).length = 9 := by simp
  rw [length] at below
  exact below

def EndsFraction (rest : List Char) : Prop := NoDigit rest ∧ ∀ tail, rest ≠ '.' :: tail

theorem takeFraction_append {fraction : List Char} (part : Fraction fraction n)
    (ends : EndsFraction rest) : takeFraction (fraction ++ rest) = some (n, rest) := by
  cases part with
  | none =>
    rw [List.nil_append]
    unfold takeFraction
    split
    · rename_i tail
      exact absurd rfl (ends.2 tail)
    · rfl
  | @point digits there only =>
    have kept : readDigits (digits.take 9) = some (Nat.ofDigitChars 10 (digits.take 9) 0) := by
      refine readDigits_eq_some_iff.mpr ⟨?_, fun c member => ?_, rfl⟩
      · simpa using there
      · exact only c (List.mem_of_mem_take member)
    simp only [List.cons_append, takeFraction, takeWhile_digits only ends.1,
      dropWhile_digits only ends.1, kept, nanoseconds_eq]
    rfl

theorem exists_fraction (read : takeFraction cs = some (n, rest)) :
    ∃ fraction, Fraction fraction n ∧ cs = fraction ++ rest := by
  unfold takeFraction at read
  split at read
  · rename_i tail
    obtain ⟨digits, others, rfl, only, ends⟩ := exists_digits tail
    simp only [takeWhile_digits only ends, dropWhile_digits only ends] at read
    obtain ⟨m, kept, same⟩ := Option.map_eq_some_iff.mp read
    obtain ⟨there, _, value⟩ := readDigits_eq_some_iff.mp kept
    cases same
    subst value
    have nonempty : digits ≠ [] := by
      rintro rfl
      exact there rfl
    refine ⟨'.' :: digits, ?_, rfl⟩
    rw [← nanoseconds_eq]
    exact .point nonempty only
  · cases read
    exact ⟨[], .none, rfl⟩

section Steps

variable {α β : Type} {next : α → Option β} {b : β}

theorem bind_of_eq {o : Option α} {a : α} (read : o = some a) : (o >>= next) = next a := by
  rw [read]
  rfl

theorem exists_field {next : Nat × List Char → Option β} (pos : 0 < width)
    (read : (takeDigits width cs >>= next) = some b) :
    ∃ n ds rest, FixedWidth width ds n ∧ cs = ds ++ rest ∧ next (n, rest) = some b := by
  obtain ⟨⟨n, rest⟩, field, read⟩ := Option.bind_eq_some_iff.mp read
  obtain ⟨ds, field, text⟩ := (takeDigits_eq_some_iff pos).mp field
  exact ⟨n, ds, rest, field, text, read⟩

theorem exists_mark {c : Char} {next : List Char → Option β}
    (read : (takeChar c cs >>= next) = some b) : ∃ rest, cs = c :: rest ∧ next rest = some b := by
  obtain ⟨rest, mark, read⟩ := Option.bind_eq_some_iff.mp read
  exact ⟨rest, takeChar_eq_some_iff.mp mark, read⟩

theorem of_guard {p : Prop} [Decidable p] {next : Unit → Option β}
    (read : (guard p >>= next) = some b) : p ∧ next () = some b := by
  unfold guard at read
  split at read
  · rename_i holds
    exact ⟨holds, read⟩
  · contradiction

end Steps

theorem takeOffset_append {zone : List Char} {offset : Int} (zoned : Zone zone offset)
    (rest : List Char) : takeOffset (zone ++ rest) = some (offset, rest) := by
  cases zoned with
  | utc mark => rw [List.singleton_append, takeOffset, if_pos mark]
  | @shifted sign hours minutes h m signed first second bounds =>
    have notUtc : ¬ (sign = 'Z' ∨ sign = 'z') := by
      rcases signed with rfl | rfl | rfl <;> decide
    rw [List.cons_append, List.append_assoc, List.cons_append, takeOffset, if_neg notUtc,
      if_pos signed]
    refine (bind_of_eq (takeDigits_append (by decide) first _)).trans ?_
    refine (bind_of_eq (takeChar_cons ':' _)).trans ?_
    refine (bind_of_eq (takeDigits_append (by decide) second _)).trans ?_
    exact if_pos bounds

theorem exists_zone {offset : Int} (read : takeOffset cs = some (offset, rest)) :
    ∃ zone, Zone zone offset ∧ cs = zone ++ rest := by
  cases cs with
  | nil => contradiction
  | cons c cs =>
    rw [takeOffset] at read
    split at read
    · rename_i mark
      cases read
      exact ⟨[c], .utc mark, rfl⟩
    · split at read
      · rename_i signed
        obtain ⟨h, hours, _, first, rfl, afterHours⟩ := exists_field (by decide) read
        obtain ⟨_, rfl, atMinutes⟩ := exists_mark afterHours
        obtain ⟨m, minutes, _, second, rfl, found⟩ := exists_field (by decide) atMinutes
        dsimp only at found
        split at found
        · rename_i bounds
          cases found
          exact ⟨_, .shifted signed first second bounds, by simp⟩
        · contradiction
      · contradiction

theorem Zone.endsFraction {zone : List Char} {offset : Int} (zoned : Zone zone offset) :
    EndsFraction zone := by
  cases zoned with
  | utc mark =>
    refine ⟨fun c tail shape => ?_, fun tail shape => ?_⟩
    · cases shape
      rcases mark with rfl | rfl <;> rfl
    · cases shape
      rcases mark with mark | mark <;> contradiction
  | shifted signed first second bounds =>
    refine ⟨fun c tail shape => ?_, fun tail shape => ?_⟩
    · cases shape
      rcases signed with rfl | rfl | rfl <;> rfl
    · cases shape
      rcases signed with signed | signed | signed <;> contradiction

theorem exists_separator (head : cs.head?.any isSeparator = true) :
    ∃ separator, isSeparator separator = true ∧ cs = separator :: cs.drop 1 := by
  cases cs with
  | nil => contradiction
  | cons c cs => exact ⟨c, head, rfl⟩

theorem denotes_of_ofChars? {t : Timestamp} (read : ofChars? cs = some t) : Denotes cs t := by
  unfold ofChars? at read
  -- From left to right: each step gives the part that it took and the text that is left.
  obtain ⟨y, years, _, year, rfl, afterYear⟩ := exists_field (by decide) read
  obtain ⟨_, rfl, atMonth⟩ := exists_mark afterYear
  obtain ⟨mo, months, _, month, rfl, afterMonth⟩ := exists_field (by decide) atMonth
  obtain ⟨_, rfl, atDay⟩ := exists_mark afterMonth
  obtain ⟨d, days, rest, day, rfl, afterDay⟩ := exists_field (by decide) atDay
  obtain ⟨head, atHour⟩ := of_guard afterDay
  obtain ⟨separator, separated, split⟩ := exists_separator head
  obtain ⟨h, hours, _, hour, shape, afterHour⟩ := exists_field (by decide) atHour
  obtain ⟨_, rfl, atMinute⟩ := exists_mark afterHour
  obtain ⟨mi, minutes, _, minute, rfl, afterMinute⟩ := exists_field (by decide) atMinute
  obtain ⟨_, rfl, atSecond⟩ := exists_mark afterMinute
  obtain ⟨s, seconds, _, second, rfl, afterSecond⟩ := exists_field (by decide) atSecond
  obtain ⟨⟨n, _⟩, fractional, afterFraction⟩ := Option.bind_eq_some_iff.mp afterSecond
  obtain ⟨fraction, part, rfl⟩ := exists_fraction fractional
  obtain ⟨⟨offset, _⟩, shifted, afterZone⟩ := Option.bind_eq_some_iff.mp afterFraction
  obtain ⟨zone, zoned, rfl⟩ := exists_zone shifted
  obtain ⟨⟨rfl, valid, clock⟩, same⟩ := of_guard afterZone
  cases same
  rw [split, shape, List.append_nil]
  exact .timestamp year month day separated hour minute second part zoned valid clock

theorem Denotes.ofChars?_eq {t : Timestamp} (denotes : Denotes cs t) : ofChars? cs = some t := by
  obtain ⟨year, month, day, separated, hour, minute, second, part, zoned, valid, clock⟩ := denotes
  have shifted := takeOffset_append zoned []
  rw [List.append_nil] at shifted
  refine (bind_of_eq (takeDigits_append (by decide) year _)).trans ?_
  refine (bind_of_eq (takeChar_cons '-' _)).trans ?_
  refine (bind_of_eq (takeDigits_append (by decide) month _)).trans ?_
  refine (bind_of_eq (takeChar_cons '-' _)).trans ?_
  refine (bind_of_eq (takeDigits_append (by decide) day _)).trans ?_
  refine (bind_of_eq (if_pos separated)).trans ?_
  refine (bind_of_eq (takeDigits_append (by decide) hour _)).trans ?_
  refine (bind_of_eq (takeChar_cons ':' _)).trans ?_
  refine (bind_of_eq (takeDigits_append (by decide) minute _)).trans ?_
  refine (bind_of_eq (takeChar_cons ':' _)).trans ?_
  refine (bind_of_eq (takeDigits_append (by decide) second _)).trans ?_
  refine (bind_of_eq (takeFraction_append part zoned.endsFraction)).trans ?_
  refine (bind_of_eq shifted).trans ?_
  exact (bind_of_eq (if_pos ⟨rfl, valid, clock⟩)).trans rfl

theorem ofChars?_eq_some_iff {t : Timestamp} : ofChars? cs = some t ↔ Denotes cs t :=
  ⟨denotes_of_ofChars?, Denotes.ofChars?_eq⟩

theorem ofText?_eq_some_iff {s : String} {t : Timestamp} :
    ofText? s = some t ↔ Denotes s.toList t := ofChars?_eq_some_iff

theorem Fraction.lt {fraction : List Char} (part : Fraction fraction n) : n < 1000000000 := by
  cases part with
  | none => decide
  | point there only => exact nanoseconds_lt only

/-- What is read has a second of its minute, or the leap second after it, and less than a second
behind it. -/
structure Bounded (t : Timestamp) : Prop where
  second : t.second ≤ 60
  nanosecond : t.nanosecond < 1000000000

theorem Denotes.bounded {t : Timestamp} (denotes : Denotes cs t) : t.Bounded := by
  obtain ⟨_, _, _, _, _, _, _, part, _, _, clock⟩ := denotes
  exact ⟨clock.2.2, part.lt⟩

end Reading

end Timestamp

end DataMatch
