import DataMatch.Proofs.Timestamps
import DataMatch.Transform

/-! Patterns that can be written. A pattern with an unknown specifier is not valid. One specifier is
known and yet has no text: `%#z`, which reads an offset in any form. Every valid pattern without it
gives a text for every timestamp. -/
namespace DataMatch.Time

section Items

variable {cs rest : List Char} {item : Item} {pattern s : String} {t : Timestamp}

/-- A `%#z` stands in the pattern where a specifier begins. -/
inductive ReadOnly : List Char → Prop
  | here (rest : List Char) : ReadOnly ('%' :: '#' :: 'z' :: rest)
  | past {cs : List Char} (later : ReadOnly (directive cs).2) : ReadOnly ('%' :: cs)
  | literal {c : Char} {cs : List Char} (plain : c ≠ '%') (later : ReadOnly cs) :
      ReadOnly (c :: cs)

theorem specifier_anyOffset (rest : List Char) :
    specifier ('#' :: 'z' :: rest) = ([.anyOffset], rest) := rfl

theorem anyOffset_mem_specifier_iff :
    .anyOffset ∈ (specifier cs).1 ↔ ∃ rest, cs = '#' :: 'z' :: rest := by
  have only : ∀ entry ∈ specifiers, .anyOffset ∈ entry.2 → entry.1 = "#z" := by decide
  constructor
  · intro member
    unfold specifier at member
    split at member
    · rename_i name items found
      obtain rfl : name = "#z" := only _ (List.mem_of_find?_eq_some found) member
      have begins : "#z".toList.isPrefixOf cs = true := by simpa using List.find?_some found
      obtain ⟨rest, text⟩ := List.isPrefixOf_iff_prefix.mp begins
      exact ⟨rest, text.symm⟩
    · simp at member
  · rintro ⟨rest, rfl⟩
    rw [specifier_anyOffset]
    exact List.mem_cons_self

theorem anyOffset_not_mem_repad (pad : Pad) (items : List Item) :
    .anyOffset ∉ repad pad items := by
  unfold repad
  split <;> simp

/-- A padding in front of the specifier makes it an unknown one. -/
theorem anyOffset_mem_directive_iff :
    .anyOffset ∈ (directive cs).1 ↔ ∃ rest, cs = '#' :: 'z' :: rest := by
  cases cs with
  | nil => simp [directive]
  | cons c cs =>
    rw [directive]
    cases padded : padOf? c with
    | none => exact anyOffset_mem_specifier_iff
    | some pad =>
      have other : c ≠ '#' := by
        rintro rfl
        contradiction
      simpa [other] using anyOffset_not_mem_repad pad (specifier cs).1

theorem anyOffset_mem_items_iff : .anyOffset ∈ items cs ↔ ReadOnly cs := by
  -- A specifier may be long, so the induction follows the items and not the characters.
  fun_induction items cs with
  | case1 => exact ⟨nofun, nofun⟩
  | case2 cs ih =>
    rw [List.mem_append, ih, anyOffset_mem_directive_iff]
    constructor
    · rintro (⟨rest, rfl⟩ | later)
      · exact .here rest
      · exact .past later
    · intro readOnly
      cases readOnly with
      | here rest => exact .inl ⟨rest, rfl⟩
      | past later => exact .inr later
      | literal plain _ => exact absurd rfl plain
  | case3 c cs plain ih =>
    rw [List.mem_cons, ih]
    constructor
    · rintro (impossible | later)
      · contradiction
      · exact .literal plain later
    · intro readOnly
      cases readOnly with
      | here rest => exact absurd rfl plain
      | past later => exact absurd rfl plain
      | literal _ later => exact .inr later

theorem chars?_isSome_iff (t : Timestamp) :
    (Item.chars? t item).isSome = true ↔ item ≠ .unknown ∧ item ≠ .anyOffset := by
  cases item <;> simp [Item.chars?]

theorem mapM_isSome_iff {α β : Type} {f : α → Option β} {xs : List α} :
    (xs.mapM f).isSome = true ↔ ∀ x ∈ xs, (f x).isSome = true := by
  induction xs with
  | nil => simp
  | cons x xs ih =>
    rw [List.mapM_cons, List.forall_mem_cons, ← ih]
    cases f x with
    | none => simp
    | some y => cases xs.mapM f <;> simp

theorem isValidPattern_iff : isValidPattern pattern = true ↔ .unknown ∉ items pattern.toList := by
  simp only [isValidPattern, List.all_eq_true, decide_eq_true_eq]
  constructor
  · intro each member
    exact each _ member rfl
  · rintro absent item member rfl
    exact absent member

theorem format?_isSome_iff (read : Timestamp.ofText? s = some t) :
    (format? pattern s).isSome = true ↔
      isValidPattern pattern = true ∧ ¬ ReadOnly pattern.toList := by
  have written : (format? pattern s).isSome = true ↔
      ((items pattern.toList).mapM (Item.chars? t)).isSome = true := by
    rw [format?, read, Option.bind_eq_bind, Option.bind_some]
    cases (items pattern.toList).mapM (Item.chars? t) <;> simp
  rw [written, mapM_isSome_iff, isValidPattern_iff, ← anyOffset_mem_items_iff]
  simp only [chars?_isSome_iff, ne_eq]
  constructor
  · intro each
    exact ⟨fun member => (each _ member).1 rfl, fun member => (each _ member).2 rfl⟩
  · rintro ⟨known, writable⟩ item member
    refine ⟨?_, ?_⟩
    · rintro rfl
      exact known member
    · rintro rfl
      exact writable member

end Items

section Dates

open Transform

variable {pattern s : String} {t : Timestamp}

theorem datePattern?_append (pattern : String) :
    datePattern? ("date:" ++ pattern) = some pattern := by
  have begins : "date:".toList.isPrefixOf ("date:" ++ pattern).toList = true := by
    rw [String.toList_append]
    exact List.isPrefixOf_iff_prefix.mpr (List.prefix_append _ _)
  have rest : ("date:" ++ pattern).toList.drop 5 = pattern.toList := by
    rw [String.toList_append]
    rfl
  rw [datePattern?, if_pos begins, rest, String.ofList_toList]

theorem named?_date (pattern : String) :
    named? ("date:" ++ pattern) =
      if isValidPattern pattern then some ⟨"date:" ++ pattern, date pattern⟩ else none := by
  rw [named?, datePattern?_append]

theorem valid_of_named? {f : Transform} (known : named? ("date:" ++ pattern) = some f) :
    isValidPattern pattern = true ∧
      ∀ s, f.apply (.string s) = .string ((format? pattern s).getD s) := by
  rw [named?_date] at known
  split at known
  · rename_i valid
    cases known
    exact ⟨valid, fun s => rfl⟩
  · contradiction

/-- A valid pattern gives every timestamp a text, unless an offset that is read only stands in it:
then the transform is accepted and changes nothing. -/
theorem date_formats_iff (read : Timestamp.ofText? s = some t) (pattern : String) :
    Timestamp.Denotes s.toList t ∧
      ((format? pattern s).isSome = true ↔
        isValidPattern pattern = true ∧ ¬ ReadOnly pattern.toList) ∧
      ((∃ f, named? ("date:" ++ pattern) = some f) ↔ isValidPattern pattern = true) ∧
      ∀ f, named? ("date:" ++ pattern) = some f →
        (ReadOnly pattern.toList → f.apply (.string s) = .string s) ∧
          (¬ ReadOnly pattern.toList →
            ∃ u, format? pattern s = some u ∧ f.apply (.string s) = .string u) := by
  have written := @format?_isSome_iff pattern s t read
  refine ⟨Timestamp.ofText?_eq_some_iff.mp read, written, ?_, ?_⟩
  · constructor
    · rintro ⟨f, known⟩
      exact (valid_of_named? known).1
    · intro valid
      exact ⟨_, (named?_date pattern).trans (if_pos valid)⟩
  · intro f known
    obtain ⟨valid, applied⟩ := valid_of_named? known
    constructor
    · intro readOnly
      have unwritten : format? pattern s = none := by
        rw [← Option.not_isSome_iff_eq_none, written]
        exact fun both => both.2 readOnly
      rw [applied, unwritten, Option.getD_none]
    · intro writable
      obtain ⟨u, text⟩ := Option.isSome_iff_exists.mp (written.mpr ⟨valid, writable⟩)
      refine ⟨u, text, ?_⟩
      rw [applied, text, Option.getD_some]

theorem date_formats_iff_leapSecond :
    ¬ ReadOnly "%%#z %j".toList ∧ ReadOnly "%H%#z".toList ∧
      ∃ t, Timestamp.ofText? "2026-02-28T23:59:60+05:30" = some t ∧
        ∃ f, named? "date:%%#z %j" = some f ∧
          f.apply (.string "2026-02-28T23:59:60+05:30") = .string "%#z 059" ∧
          ∃ f, named? "date:%H%#z" = some f ∧
            f.apply (.string "2026-02-28T23:59:60+05:30") =
              .string "2026-02-28T23:59:60+05:30" := by
  have read : Timestamp.ofText? "2026-02-28T23:59:60+05:30" =
      some ⟨1065658709, 60, 0, 330⟩ := by decide +kernel
  have text : format? "%%#z %j" "2026-02-28T23:59:60+05:30" = some "%#z 059" := by decide +kernel
  have readOnly : ReadOnly "%H%#z".toList := .past (.here [])
  obtain ⟨-, written, accepted, formats⟩ := date_formats_iff read "%%#z %j"
  obtain ⟨-, -, accepted', formats'⟩ := date_formats_iff read "%H%#z"
  obtain ⟨valid, writable⟩ := written.mp (Option.isSome_of_eq_some text)
  obtain ⟨f, named⟩ := accepted.mpr valid
  obtain ⟨f', named'⟩ := accepted'.mpr (by decide +kernel)
  obtain ⟨u, same, formatted⟩ := (formats f named).2 writable
  obtain rfl : "%#z 059" = u := Option.some.inj (text.symm.trans same)
  exact ⟨writable, readOnly, _, read, f, named, formatted, f', named',
    (formats' f' named').1 readOnly⟩

theorem valid_pattern_unwritten :
    isValidPattern "%#z" = true ∧
      (∃ t, Timestamp.ofText? "2026-03-01T00:00:00Z" = some t) ∧
      format? "%#z" "2026-03-01T00:00:00Z" = none ∧
      ∃ f, named? "date:%#z" = some f ∧
        f.apply (.string "2026-03-01T00:00:00Z") = .string "2026-03-01T00:00:00Z" := by
  have valid : isValidPattern "%#z" = true := by decide +kernel
  have read : (Timestamp.ofText? "2026-03-01T00:00:00Z").isSome = true := by decide +kernel
  have unwritten : format? "%#z" "2026-03-01T00:00:00Z" = none := by decide +kernel
  have known := (named?_date "%#z").trans (if_pos valid)
  have applied := (valid_of_named? known).2 "2026-03-01T00:00:00Z"
  rw [unwritten, Option.getD_none] at applied
  exact ⟨valid, Option.isSome_iff_exists.mp read, unwritten, _, known, applied⟩

end Dates

end DataMatch.Time
