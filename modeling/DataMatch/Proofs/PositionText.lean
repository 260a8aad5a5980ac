import DataMatch.Value.Lookup

/-! Positions written in decimal are read back as themselves, so a printed position leads to its
item. -/
namespace DataMatch

namespace Text

theorem isBlank_of_isDigit {c : Char} (digit : c.isDigit = true) : isBlank c = false := by
  have bounds : 48 ≤ c.toNat ∧ c.toNat ≤ 57 := by
    simpa [Char.isDigit, UInt32.le_iff_toNat_le] using digit
  simp only [isBlank, Bool.or_eq_false_iff, Bool.and_eq_false_iff, decide_eq_false_iff_not,
    beq_eq_false_iff_ne]
  omega

theorem trimChars_of_unblank {cs : List Char} (unblank : ∀ c ∈ cs, isBlank c = false) :
    trimChars cs = cs := by
  have kept : ∀ ds : List Char, (∀ c ∈ ds, isBlank c = false) → ds.dropWhile isBlank = ds := by
    intro ds h
    cases ds with
    | nil => rfl
    | cons d ds => simp [List.dropWhile, h d List.mem_cons_self]
  have reversed : ∀ c ∈ cs.reverse, isBlank c = false :=
    fun c member => unblank c (List.mem_reverse.mp member)
  rw [trimChars, kept cs unblank, kept cs.reverse reversed, List.reverse_reverse]

theorem isDigit_of_mem_decimal {n : Nat} {c : Char} (member : c ∈ Nat.toDigits 10 n) :
    c.isDigit = true :=
  Nat.isDigit_of_mem_toDigits (by decide) (by decide) member

theorem readDigits_decimal (n : Nat) : readDigits (Nat.toDigits 10 n) = some n := by
  have digits : (Nat.toDigits 10 n).all Char.isDigit = true :=
    List.all_eq_true.mpr fun c member => isDigit_of_mem_decimal member
  rw [readDigits, if_pos ⟨Nat.toDigits_ne_nil, digits⟩, Nat.ofDigitChars_ten_toDigits]

theorem readInteger_decimal (n : Nat) : readInteger (Nat.toDigits 10 n) = some (n : Int) := by
  have unsigned : ∀ c ∈ Nat.toDigits 10 n, c.isDigit = true := fun c => isDigit_of_mem_decimal
  unfold readInteger
  split
  · rename_i cs shape
    rw [shape] at unsigned
    exact absurd (unsigned '+' List.mem_cons_self) (by decide)
  · rename_i cs shape
    rw [shape] at unsigned
    exact absurd (unsigned '-' List.mem_cons_self) (by decide)
  · rw [readDigits_decimal]
    rfl

theorem readInteger_minus (n : Nat) :
    readInteger ('-' :: Nat.toDigits 10 n) = some (-(n : Int)) := by
  rw [readInteger, readDigits_decimal]
  rfl

theorem readInteger_toString (n : Int) : readInteger (toString n).toList = some n := by
  cases n with
  | ofNat n =>
    change readInteger (Nat.repr n).toList = _
    rw [Nat.toList_repr, readInteger_decimal]
    rfl
  | negSucc n =>
    change readInteger ("-" ++ Nat.repr (n + 1)).toList = _
    rw [String.toList_append, Nat.toList_repr]
    exact readInteger_minus (n + 1)

theorem unblank_of_mem_toString {n : Int} {c : Char} (member : c ∈ (toString n).toList) :
    isBlank c = false := by
  cases n with
  | ofNat n =>
    change c ∈ (Nat.repr n).toList at member
    rw [Nat.toList_repr] at member
    exact isBlank_of_isDigit (isDigit_of_mem_decimal member)
  | negSucc n =>
    change c ∈ ("-" ++ Nat.repr (n + 1)).toList at member
    rw [String.toList_append, Nat.toList_repr] at member
    rcases List.mem_cons.mp member with rfl | digit
    · rfl
    · exact isBlank_of_isDigit (isDigit_of_mem_decimal digit)

theorem isDigit_of_readDigits {cs : List Char} {n : Nat} (read : readDigits cs = some n) :
    ∀ c ∈ cs, c.isDigit = true := by
  unfold readDigits at read
  split at read
  · rename_i digits
    exact List.all_eq_true.mp digits.2
  · contradiction

theorem readInteger_of_readNatural {cs : List Char} {n : Nat} (read : readNatural cs = some n) :
    readInteger cs = some (n : Int) ∧ ∀ c ∈ cs, isBlank c = false := by
  unfold readNatural at read
  split at read
  · rename_i cs
    have digits := isDigit_of_readDigits read
    refine ⟨by simp [readInteger, read], List.forall_mem_cons.mpr ⟨rfl, ?_⟩⟩
    exact fun c member => isBlank_of_isDigit (digits c member)
  · rename_i unsigned
    have digits := isDigit_of_readDigits read
    refine ⟨?_, fun c member => isBlank_of_isDigit (digits c member)⟩
    unfold readInteger
    split
    · rename_i cs
      exact absurd rfl (unsigned cs)
    · have minus := digits '-' List.mem_cons_self
      contradiction
    · simp [read]

end Text

theorem parseIndex_toString {n : Int} (low : -(Nat.pow 2 63 : Nat) ≤ n)
    (high : n < (Nat.pow 2 63 : Nat)) : parseIndex (toString n) = some n := by
  have trimmed : Text.trimChars (toString n).toList = (toString n).toList :=
    Text.trimChars_of_unblank fun c => Text.unblank_of_mem_toString
  rw [parseIndex, trimmed, Text.readInteger_toString, Option.filter_some]
  exact if_pos (decide_eq_true ⟨low, high⟩)

theorem parseIndex_position {i : Nat} (bound : i < Nat.pow 2 63) :
    parseIndex (toString i) = some (i : Int) :=
  parseIndex_toString (n := i) (by omega) (by omega)

theorem parseIndex_of_positionOf? {segment : String} {i : Nat} (bound : i < Nat.pow 2 63)
    (read : positionOf? segment = some i) : parseIndex segment = some (i : Int) := by
  obtain ⟨natural, _⟩ := Option.filter_eq_some_iff.mp read
  obtain ⟨integer, unblank⟩ := Text.readInteger_of_readNatural natural
  rw [parseIndex, Text.trimChars_of_unblank unblank, integer, Option.filter_some]
  exact if_pos (decide_eq_true ⟨by omega, by omega⟩)

section Positions

variable {items : List Value} {item : Value} {i : Nat}

theorem position_leads (short : items.length ≤ Nat.pow 2 63) (found : items[i]? = some item) :
    (parseIndex (toString i)).bind (resolveIndex items) = some item := by
  obtain ⟨bound, _⟩ := List.getElem?_eq_some_iff.mp found
  rw [parseIndex_position (by omega), Option.bind_some, resolveIndex, if_pos (Int.natCast_nonneg i),
    Int.toNat_natCast]
  exact found

theorem position_fromEnd_leads (short : items.length ≤ Nat.pow 2 63)
    (found : items[i]? = some item) :
    (parseIndex (toString ((i : Int) - items.length))).bind (resolveIndex items) = some item := by
  obtain ⟨bound, _⟩ := List.getElem?_eq_some_iff.mp found
  have parsed :
      parseIndex (toString ((i : Int) - items.length)) = some ((i : Int) - items.length) :=
    parseIndex_toString (by omega) (by omega)
  have negative : ¬ 0 ≤ (i : Int) - items.length := by omega
  have inside : ((i : Int) - items.length).natAbs ≤ items.length := by omega
  have position : items.length - ((i : Int) - items.length).natAbs = i := by omega
  rw [parsed, Option.bind_some, resolveIndex, if_neg negative, if_pos inside, position]
  exact found

end Positions

end DataMatch
