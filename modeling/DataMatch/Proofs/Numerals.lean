import DataMatch.Value.Comparison

/-! Which texts stand for numbers. A text is coerced to a number exactly when it is one of the
grammar below once the blanks around it are gone. The text of a double may also be a word, but the
letters of the words are refused first, so of these only the infinities in one spelling remain. -/
namespace DataMatch

namespace Numeral

def Digits (cs : List Char) : Prop := ∀ c ∈ cs, c.isDigit = true

instance (cs : List Char) : Decidable (Digits cs) :=
  List.decidableBAll (fun c : Char => c.isDigit = true) cs

inductive Sign : List Char → Prop
  | none : Sign []
  | plus : Sign ['+']
  | minus : Sign ['-']

inductive Mantissa : List Char → Prop
  | whole {whole : List Char} (there : whole ≠ []) (digits : Digits whole) : Mantissa whole
  | point {whole places : List Char} (there : whole ≠ []) (digits : Digits whole)
      (more : Digits places) : Mantissa (whole ++ '.' :: places)
  | places {places : List Char} (there : places ≠ []) (digits : Digits places) :
      Mantissa ('.' :: places)

inductive Exponent : List Char → Prop
  | none : Exponent []
  | marked {mark : Char} {sign digits : List Char} (letter : mark = 'e' ∨ mark = 'E')
      (signed : Sign sign) (there : digits ≠ []) (only : Digits digits) :
      Exponent (mark :: (sign ++ digits))

inductive Unsigned : List Char → Prop
  | scaled {mantissa exponent : List Char} (decimal : Mantissa mantissa)
      (scale : Exponent exponent) : Unsigned (mantissa ++ exponent)

def IsWord (cs : List Char) : Prop :=
  cs.map Char.toLower ∈ ["inf".toList, "infinity".toList, "nan".toList]

def Infinite (cs : List Char) : Prop := ∃ sign, Sign sign ∧ cs = sign ++ "Infinity".toList

inductive Accepted : List Char → Prop
  | blank : Accepted []
  | infinity {cs : List Char} (infinite : Infinite cs) : Accepted cs
  | numeral {sign rest : List Char} (signed : Sign sign) (unsigned : Unsigned rest) :
      Accepted (sign ++ rest)

section Reading

variable {cs whole places rest : List Char} {negative : Bool}

def NoDigit (cs : List Char) : Prop := ∀ c tail, cs = c :: tail → c.isDigit = false

theorem Digits.head_ne (digits : Digits cs) {c : Char} (other : c.isDigit = false) :
    ∀ tail, cs ≠ c :: tail := by
  intro tail shape
  have digit := digits c (by simp [shape])
  rw [other] at digit
  contradiction

theorem exists_digits (cs : List Char) :
    ∃ whole rest, cs = whole ++ rest ∧ Digits whole ∧ NoDigit rest := by
  induction cs with
  | nil => exact ⟨[], [], rfl, nofun, nofun⟩
  | cons c cs ih =>
    by_cases digit : c.isDigit = true
    · obtain ⟨whole, rest, rfl, digits, ends⟩ := ih
      exact ⟨c :: whole, rest, rfl, List.forall_mem_cons.mpr ⟨digit, digits⟩, ends⟩
    · refine ⟨[], c :: cs, rfl, nofun, fun d tail shape => ?_⟩
      cases shape
      exact Bool.eq_false_iff.mpr digit

theorem takeWhile_digits (digits : Digits whole) (ends : NoDigit rest) :
    (whole ++ rest).takeWhile Char.isDigit = whole := by
  rw [List.takeWhile_append_of_pos digits]
  cases rest with
  | nil => simp
  | cons c tail => simp [ends c tail rfl]

theorem dropWhile_digits (digits : Digits whole) (ends : NoDigit rest) :
    (whole ++ rest).dropWhile Char.isDigit = rest := by
  rw [List.dropWhile_append_of_pos digits]
  cases rest with
  | nil => rfl
  | cons c tail => simp [ends c tail rfl]

theorem isSome_readDigits : (Text.readDigits cs).isSome = true ↔ cs ≠ [] ∧ Digits cs := by
  unfold Text.readDigits Digits
  rw [← List.all_eq_true]
  split
  · rename_i digits
    exact iff_of_true rfl digits
  · rename_i other
    exact iff_of_false nofun other

theorem isSome_minus (cs : List Char) :
    (Text.readInteger ('-' :: cs)).isSome = (Text.readDigits cs).isSome := by
  rw [Text.readInteger]
  cases Text.readDigits cs <;> rfl

theorem isSome_readInteger :
    (Text.readInteger cs).isSome = true ↔
      ∃ sign digits, cs = sign ++ digits ∧ Sign sign ∧ digits ≠ [] ∧ Digits digits := by
  constructor
  · intro read
    unfold Text.readInteger at read
    split at read
    · rename_i tail
      rw [Option.isSome_map] at read
      exact ⟨['+'], tail, rfl, .plus, isSome_readDigits.mp read⟩
    · rename_i tail
      have digits := (isSome_minus tail).symm.trans read
      exact ⟨['-'], tail, rfl, .minus, isSome_readDigits.mp digits⟩
    · rw [Option.isSome_map] at read
      exact ⟨[], cs, rfl, .none, isSome_readDigits.mp read⟩
  · rintro ⟨sign, digits, rfl, signed, there, only⟩
    have read := isSome_readDigits.mpr ⟨there, only⟩
    cases signed with
    | none =>
      rw [List.nil_append, Text.readInteger.eq_3 digits (only.head_ne rfl) (only.head_ne rfl),
        Option.isSome_map]
      exact read
    | plus =>
      rw [List.singleton_append, Text.readInteger, Option.isSome_map]
      exact read
    | minus =>
      rw [List.singleton_append, isSome_minus]
      exact read

theorem isSome_readExponent : (Decimal.readExponent cs).isSome = true ↔ Exponent cs := by
  constructor
  · intro read
    unfold Decimal.readExponent at read
    split at read
    · exact .none
    · split at read
      · rename_i letter
        obtain ⟨sign, digits, rfl, signed, there, only⟩ := isSome_readInteger.mp read
        exact .marked letter signed there only
      · contradiction
  · intro exponent
    cases exponent with
    | none => rfl
    | marked letter signed there only =>
      rw [Decimal.readExponent, if_pos letter]
      exact isSome_readInteger.mpr ⟨_, _, rfl, signed, there, only⟩

theorem isSome_readUnsigned_point (digits : Digits whole) (more : Digits places)
    (ends : NoDigit rest) :
    (Decimal.readUnsigned negative (whole ++ '.' :: (places ++ rest))).isSome = true ↔
      ¬ (whole = [] ∧ places = []) ∧ Exponent rest := by
  have point : NoDigit ('.' :: (places ++ rest)) := by
    rintro c tail shape
    cases shape
    rfl
  unfold Decimal.readUnsigned
  simp only [takeWhile_digits digits point, dropWhile_digits digits point,
    takeWhile_digits more ends, dropWhile_digits more ends]
  split
  · rename_i bare
    exact iff_of_false nofun fun both => both.1 bare
  · rename_i there
    rw [Option.isSome_map, isSome_readExponent, and_iff_right there]

theorem isSome_readUnsigned_plain (digits : Digits whole) (ends : NoDigit rest)
    (plain : ∀ tail, rest ≠ '.' :: tail) :
    (Decimal.readUnsigned negative (whole ++ rest)).isSome = true ↔
      whole ≠ [] ∧ Exponent rest := by
  unfold Decimal.readUnsigned
  simp only [takeWhile_digits digits ends, dropWhile_digits digits ends]
  split
  · rename_i bare
    exact iff_of_false nofun fun both => both.1 bare.1
  · rename_i there
    rw [Option.isSome_map, isSome_readExponent, and_iff_right fun bare => there ⟨bare, trivial⟩]

theorem Exponent.first (exponent : Exponent cs) : NoDigit cs ∧ ∀ tail, cs ≠ '.' :: tail := by
  cases exponent with
  | none => exact ⟨nofun, nofun⟩
  | marked letter signed there only =>
    refine ⟨fun c tail shape => ?_, fun tail shape => ?_⟩
    · cases shape
      rcases letter with rfl | rfl <;> rfl
    · cases shape
      rcases letter with letter | letter <;> contradiction

theorem isSome_readUnsigned :
    (Decimal.readUnsigned negative cs).isSome = true ↔ Unsigned cs := by
  constructor
  · intro read
    obtain ⟨whole, rest, rfl, digits, ends⟩ := exists_digits cs
    by_cases point : ∃ tail, rest = '.' :: tail
    · obtain ⟨tail, rfl⟩ := point
      obtain ⟨places, rest, rfl, more, ends⟩ := exists_digits tail
      obtain ⟨there, scale⟩ := (isSome_readUnsigned_point digits more ends).mp read
      have mantissa : Mantissa (whole ++ '.' :: places) := by
        by_cases empty : whole = []
        · subst empty
          exact .places (fun bare => there ⟨rfl, bare⟩) more
        · exact .point empty digits more
      rw [← List.cons_append, ← List.append_assoc]
      exact .scaled mantissa scale
    · have plain : ∀ tail, rest ≠ '.' :: tail := fun tail shape => point ⟨tail, shape⟩
      obtain ⟨there, scale⟩ := (isSome_readUnsigned_plain digits ends plain).mp read
      exact .scaled (.whole there digits) scale
  · rintro ⟨decimal, scale⟩
    obtain ⟨ends, plain⟩ := scale.first
    cases decimal with
    | whole there digits => exact (isSome_readUnsigned_plain digits ends plain).mpr ⟨there, scale⟩
    | point there digits more =>
      rw [List.append_assoc, List.cons_append]
      exact (isSome_readUnsigned_point digits more ends).mpr ⟨fun bare => there bare.1, scale⟩
    | places there digits =>
      have none : Digits [] := nofun
      exact (isSome_readUnsigned_point none digits ends).mpr ⟨fun bare => there bare.2, scale⟩

end Reading

def isNumeric (c : Char) : Bool := c.isDigit || "+-.eE".toList.contains c

section Characters

variable {cs sign mantissa exponent : List Char} {c : Char}

theorem isNumeric_of_isDigit (digit : c.isDigit = true) : isNumeric c = true := by
  rw [isNumeric, digit, Bool.true_or]

theorem Digits.numeric (digits : Digits cs) : ∀ c ∈ cs, isNumeric c = true :=
  fun c member => isNumeric_of_isDigit (digits c member)

theorem Sign.numeric (signed : Sign sign) : ∀ c ∈ sign, isNumeric c = true := by
  cases signed with
  | none => exact nofun
  | plus => exact List.forall_mem_singleton.mpr rfl
  | minus => exact List.forall_mem_singleton.mpr rfl

theorem Mantissa.numeric (decimal : Mantissa mantissa) : ∀ c ∈ mantissa, isNumeric c = true := by
  cases decimal with
  | whole there digits => exact digits.numeric
  | point there digits more =>
    exact List.forall_mem_append.mpr ⟨digits.numeric, List.forall_mem_cons.mpr ⟨rfl, more.numeric⟩⟩
  | places there digits => exact List.forall_mem_cons.mpr ⟨rfl, digits.numeric⟩

theorem Exponent.numeric (scaled : Exponent exponent) : ∀ c ∈ exponent, isNumeric c = true := by
  cases scaled with
  | none => exact nofun
  | marked letter signed there only =>
    refine List.forall_mem_cons.mpr ⟨?_, List.forall_mem_append.mpr ⟨signed.numeric, only.numeric⟩⟩
    rcases letter with rfl | rfl <;> rfl

theorem Accepted.numeric (accepted : Accepted cs) :
    Infinite cs ∨ ∀ c ∈ cs, isNumeric c = true := by
  cases accepted with
  | blank => exact .inr nofun
  | infinity infinite => exact .inl infinite
  | numeral signed unsigned =>
    obtain ⟨decimal, scale⟩ := unsigned
    exact .inr (List.forall_mem_append.mpr ⟨signed.numeric,
      List.forall_mem_append.mpr ⟨decimal.numeric, scale.numeric⟩⟩)

theorem isForeignLetter_of_isNumeric (numeric : isNumeric c = true) :
    Text.isForeignLetter c = false := by
  rcases Bool.or_eq_true_iff.mp numeric with digit | other
  · -- Digits come before both alphabets.
    have last : c.val ≤ '9'.val := of_decide_eq_true (Bool.and_eq_true_iff.mp digit).2
    have upper : c.isUpper = false :=
      decide_eq_false fun letter => absurd (UInt32.le_trans letter.1 last) (by decide)
    have lower : c.isLower = false := Bool.and_eq_false_imp.mpr fun letter =>
      absurd (UInt32.le_trans (of_decide_eq_true letter) last) (by decide)
    have alpha : c.isAlpha = false := Bool.or_eq_false_iff.mpr ⟨upper, lower⟩
    rw [Text.isForeignLetter, alpha]
    rfl
  · have listed : c = '+' ∨ c = '-' ∨ c = '.' ∨ c = 'e' ∨ c = 'E' := by simpa using other
    rcases listed with rfl | rfl | rfl | rfl | rfl <;> rfl

theorem eq_n_of_toLower (folded : c.toLower = 'n') : c = 'n' ∨ c = 'N' := by
  unfold Char.toLower at folded
  split at folded
  · have shifted : c.val + 32 = 110 := congrArg Char.val folded
    have value : c.val = 78 := by grind
    exact .inr (Char.ext value)
  · exact .inl folded

/-- Every word has an `n`, which no numeral has. -/
theorem IsWord.exists_n (word : IsWord cs) : ∃ c ∈ cs, c = 'n' ∨ c = 'N' := by
  have letter : ∀ w ∈ ["inf".toList, "infinity".toList, "nan".toList], 'n' ∈ w := by decide
  obtain ⟨c, member, folded⟩ := List.mem_map.mp (letter _ word)
  exact ⟨c, member, eq_n_of_toLower folded⟩

theorem IsWord.foreign (word : IsWord cs) : cs.any Text.isForeignLetter = true := by
  obtain ⟨c, member, letter⟩ := word.exists_n
  refine List.any_eq_true.mpr ⟨c, member, ?_⟩
  rcases letter with rfl | rfl <;> rfl

end Characters

section Doubles

variable {cs : List Char} {negative : Bool}

theorem isSome_ofWord : (Double.ofWord? negative cs).isSome = true ↔ IsWord cs := by
  simp only [Double.ofWord?, IsWord, List.mem_cons, List.not_mem_nil, or_false, ← or_assoc]
  split
  · rename_i infinity
    exact iff_of_true rfl (.inl infinity)
  · rename_i finite
    split
    · rename_i nan
      exact iff_of_true rfl (.inr nan)
    · rename_i number
      exact iff_of_false nofun (not_or.mpr ⟨finite, number⟩)

theorem isSome_ofUnsigned :
    (Double.ofUnsigned? negative cs).isSome = true ↔ Unsigned cs ∨ IsWord cs := by
  have numeral : (Decimal.readUnsigned negative cs).isSome = true ↔ Unsigned cs :=
    isSome_readUnsigned
  unfold Double.ofUnsigned?
  cases read : Decimal.readUnsigned negative cs with
  | some d =>
    rw [read] at numeral
    exact iff_of_true rfl (.inl (numeral.mp rfl))
  | none =>
    rw [read] at numeral
    have other : ¬ Unsigned cs := fun unsigned => nomatch numeral.mpr unsigned
    exact isSome_ofWord.trans (or_iff_right other).symm

theorem Mantissa.exists_head {mantissa : List Char} (decimal : Mantissa mantissa) :
    ∃ c tail, mantissa = c :: tail ∧ (c.isDigit = true ∨ c = '.') := by
  cases decimal with
  | whole there digits =>
    obtain ⟨c, tail, rfl⟩ := List.exists_cons_of_ne_nil there
    exact ⟨c, tail, rfl, .inl (digits c List.mem_cons_self)⟩
  | point there digits more =>
    obtain ⟨c, tail, rfl⟩ := List.exists_cons_of_ne_nil there
    exact ⟨c, _, rfl, .inl (digits c List.mem_cons_self)⟩
  | places there digits => exact ⟨'.', _, rfl, .inr rfl⟩

theorem first_ne_sign {c : Char} {tail : List Char}
    (text : Unsigned (c :: tail) ∨ IsWord (c :: tail)) : c ≠ '+' ∧ c ≠ '-' := by
  rcases text with unsigned | word
  · generalize shape : c :: tail = cs at unsigned
    obtain ⟨decimal, scale⟩ := unsigned
    obtain ⟨d, rest, rfl, head⟩ := decimal.exists_head
    cases shape
    constructor
    · rintro rfl
      rcases head with digit | point <;> contradiction
    · rintro rfl
      rcases head with digit | point <;> contradiction
  · constructor
    · rintro rfl
      simp [IsWord] at word
    · rintro rfl
      simp [IsWord] at word

theorem isSome_ofChars :
    (Double.ofChars? cs).isSome = true ↔
      ∃ sign rest, cs = sign ++ rest ∧ Sign sign ∧ (Unsigned rest ∨ IsWord rest) := by
  constructor
  · intro read
    unfold Double.ofChars? at read
    split at read
    · rename_i tail
      exact ⟨['+'], tail, rfl, .plus, isSome_ofUnsigned.mp read⟩
    · rename_i tail
      exact ⟨['-'], tail, rfl, .minus, isSome_ofUnsigned.mp read⟩
    · exact ⟨[], cs, rfl, .none, isSome_ofUnsigned.mp read⟩
  · rintro ⟨sign, rest, rfl, signed, text⟩
    cases signed with
    | none =>
      have plus : ∀ tail, rest ≠ '+' :: tail := by
        rintro tail rfl
        exact (first_ne_sign text).1 rfl
      have minus : ∀ tail, rest ≠ '-' :: tail := by
        rintro tail rfl
        exact (first_ne_sign text).2 rfl
      rw [List.nil_append, Double.ofChars?.eq_3 rest plus minus]
      exact isSome_ofUnsigned.mpr text
    | plus => exact isSome_ofUnsigned.mpr text
    | minus => exact isSome_ofUnsigned.mpr text

theorem toDouble_ne_nan (d : Decimal) : d.toDouble ≠ .nan := by
  have quotient : ∀ negative num den, Double.ofQuotient negative num den ≠ .nan := by
    intro negative num den
    unfold Double.ofQuotient Double.ofUnitQuotient
    split
    · simp
    · simp
  unfold Decimal.toDouble
  simp only
  split
  · simp
  · split
    · simp
    · split
      · exact quotient _ _ _
      · exact quotient _ _ _

theorem isWord_of_ofUnsigned (nan : Double.ofUnsigned? negative cs = some .nan) : IsWord cs := by
  unfold Double.ofUnsigned? at nan
  split at nan
  · rename_i d read
    exact absurd (Option.some.inj nan) (toDouble_ne_nan d)
  · exact isSome_ofWord.mp (Option.isSome_of_eq_some nan)

theorem foreign_of_ofChars (nan : Double.ofChars? cs = some .nan) :
    cs.any Text.isForeignLetter = true := by
  unfold Double.ofChars? at nan
  split at nan
  · exact Bool.or_eq_true_iff.mpr (.inr (isWord_of_ofUnsigned nan).foreign)
  · exact Bool.or_eq_true_iff.mpr (.inr (isWord_of_ofUnsigned nan).foreign)
  · exact (isWord_of_ofUnsigned nan).foreign

theorem infinite_iff : Infinite cs ↔
    (cs = "Infinity".toList ∨ cs = "+Infinity".toList) ∨ cs = "-Infinity".toList := by
  constructor
  · rintro ⟨sign, signed, rfl⟩
    cases signed with
    | none => exact .inl (.inl rfl)
    | plus => exact .inl (.inr rfl)
    | minus => exact .inr rfl
  · rintro ((rfl | rfl) | rfl)
    · exact ⟨[], .none, rfl⟩
    · exact ⟨['+'], .plus, rfl⟩
    · exact ⟨['-'], .minus, rfl⟩

theorem not_accepted_of_foreign (finite : ¬ Infinite cs)
    (foreign : cs.any Text.isForeignLetter = true) : ¬ Accepted cs := by
  intro accepted
  have numeric := accepted.numeric.resolve_left finite
  obtain ⟨c, member, letter⟩ := List.any_eq_true.mp foreign
  rw [isForeignLetter_of_isNumeric (numeric c member)] at letter
  contradiction

theorem ofChars?_ne_nan_iff_accepted (there : cs ≠ []) (finite : ¬ Infinite cs)
    (plain : ¬ cs.any Text.isForeignLetter = true) :
    (Double.ofChars? cs).getD .nan ≠ .nan ↔ Accepted cs := by
  have texts : (Double.ofChars? cs).isSome = true ↔ _ := isSome_ofChars
  cases text : Double.ofChars? cs with
  | none =>
    rw [text] at texts
    refine iff_of_false (fun other => other rfl) fun accepted => ?_
    cases accepted with
    | blank => exact there rfl
    | infinity infinite => exact finite infinite
    | numeral signed unsigned =>
      have some := texts.mpr ⟨_, _, rfl, signed, .inl unsigned⟩
      contradiction
  | some x =>
    have number : x ≠ .nan := fun nan => plain (foreign_of_ofChars (text.trans (congrArg some nan)))
    rw [text] at texts
    obtain ⟨sign, rest, rfl, signed, unsigned | word⟩ := texts.mp rfl
    · exact iff_of_true number (.numeral signed unsigned)
    · rw [List.any_append, word.foreign, Bool.or_true] at plain
      exact absurd rfl plain

theorem toNumber_ne_nan_iff (s : String) :
    Text.toNumber s ≠ .nan ↔ Accepted (Text.trimChars s.toList) := by
  unfold Text.toNumber
  generalize Text.trimChars s.toList = cs
  simp only
  split
  · rename_i blank
    exact iff_of_true nofun (blank ▸ .blank)
  · rename_i there
    split
    · rename_i positive
      exact iff_of_true nofun (.infinity (infinite_iff.mpr (.inl positive)))
    · rename_i notPositive
      split
      · rename_i negative
        exact iff_of_true nofun (.infinity (infinite_iff.mpr (.inr negative)))
      · rename_i notNegative
        have finite : ¬ Infinite cs := fun infinite =>
          (infinite_iff.mp infinite).elim notPositive notNegative
        split
        · rename_i foreign
          exact iff_of_false (fun other => other rfl) (not_accepted_of_foreign finite foreign)
        · rename_i plain
          exact ofChars?_ne_nan_iff_accepted there finite plain

end Doubles

end Numeral

namespace Value

open Numeral

/-- A string is coerced to a number exactly when the grammar accepts it without its blanks. Apart
from the infinities in their one spelling, no other character than those of numerals is accepted, and
behind no sign a word for an infinity or for what is not a number, in whatever case. -/
theorem toNumber_follows_grammar (s : String) :
    ((string s).toNumber ≠ .nan ↔ Accepted (Text.trimChars s.toList)) ∧
      (¬ Infinite (Text.trimChars s.toList) →
        ((∃ c ∈ Text.trimChars s.toList, isNumeric c = false) → (string s).toNumber = .nan) ∧
        ∀ sign word, Text.trimChars s.toList = sign ++ word → IsWord word →
          (string s).toNumber = .nan) := by
  have accepts : (string s).toNumber ≠ .nan ↔ Accepted (Text.trimChars s.toList) :=
    toNumber_ne_nan_iff s
  refine ⟨accepts, fun finite => ?_⟩
  have refused : (∃ c ∈ Text.trimChars s.toList, isNumeric c = false) →
      (string s).toNumber = .nan := by
    rintro ⟨c, member, other⟩
    refine Decidable.not_not.mp fun number => ?_
    have numeric := (accepts.mp number).numeric.resolve_left finite c member
    rw [other] at numeric
    contradiction
  refine ⟨refused, fun sign word shape spelled => refused ?_⟩
  obtain ⟨c, member, letter⟩ := spelled.exists_n
  refine ⟨c, shape ▸ List.mem_append_right sign member, ?_⟩
  rcases letter with rfl | rfl <;> rfl

theorem toNumber_follows_grammar_samples :
    (string "\u2003-.5E+02\n").toNumber ≠ .nan ∧
      ¬ Infinite (Text.trimChars " 0x1F".toList) ∧ (string " 0x1F").toNumber = .nan ∧
      ¬ Infinite (Text.trimChars "-INFINITY".toList) ∧ (string "-INFINITY").toNumber = .nan := by
  have places : Mantissa ".5".toList := @Mantissa.places "5".toList (by decide) (by decide)
  have scale : Exponent "E+02".toList :=
    @Exponent.marked 'E' ['+'] "02".toList (.inr rfl) .plus (by decide) (by decide)
  have numeral : Accepted "-.5E+02".toList := @Accepted.numeral ['-'] _ .minus (.scaled places scale)
  have hexadecimal : ¬ Infinite (Text.trimChars " 0x1F".toList) := by
    rw [infinite_iff]
    decide
  have shouted : ¬ Infinite (Text.trimChars "-INFINITY".toList) := by
    rw [infinite_iff]
    decide
  obtain ⟨accepts, _⟩ := toNumber_follows_grammar "\u2003-.5E+02\n"
  obtain ⟨_, refused⟩ := toNumber_follows_grammar " 0x1F"
  obtain ⟨_, refused'⟩ := toNumber_follows_grammar "-INFINITY"
  exact ⟨accepts.mpr numeral, hexadecimal, (refused hexadecimal).1 ⟨'x', by decide, rfl⟩, shouted,
    (refused' shouted).2 ['-'] "INFINITY".toList (by decide) (by unfold IsWord; decide)⟩

end Value

end DataMatch
