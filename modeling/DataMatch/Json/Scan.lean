import DataMatch.Json.Token

/-! The tokens of a text. Each token is followed by less than was there before it
(`Token.length_next_le`), so scanning ends. -/
namespace DataMatch.Json

open Text (isByte)

theorem length_expectWord_le {cs : List Char} {bytes rest : Bytes}
    (h : expectWord cs bytes = .ok rest) : rest.length ≤ bytes.length := by
  induction cs generalizing bytes with
  | nil => cases h; exact Nat.le_refl _
  | cons c cs ih =>
    cases bytes with
    | nil => cases h
    | cons b bytes =>
      rw [expectWord] at h
      split at h
      · exact Nat.le_succ_of_le (ih h)
      · cases h

theorem length_takeDigits_lt {bytes rest : Bytes} {digits : List Char}
    (h : takeDigits bytes = .ok (digits, rest)) : rest.length < bytes.length := by
  have parts : (bytes.takeWhile isDigitByte).length + (bytes.dropWhile isDigitByte).length
      = bytes.length := by
    rw [← List.length_append, List.takeWhile_append_dropWhile]
  simp only [takeDigits] at h
  split at h
  · cases h
  · cases h
    omega

theorem length_takeWhole_lt {bytes rest : Bytes} {digits : List Char}
    (h : takeWhole bytes = .ok (digits, rest)) : rest.length < bytes.length := by
  unfold takeWhole at h
  cases hd : takeDigits bytes with
  | error f => rw [hd] at h; cases h
  | ok p =>
    rw [hd] at h
    obtain ⟨ds, r⟩ := p
    simp only [bind, Except.bind] at h
    split at h
    · cases h
    · cases h
      exact length_takeDigits_lt hd

theorem length_takeFraction_le {bytes rest : Bytes} {digits : Option (List Char)}
    (h : takeFraction bytes = .ok (digits, rest)) : rest.length ≤ bytes.length := by
  unfold takeFraction at h
  split at h
  · cases h; exact Nat.le_refl _
  · rename_i b bytes
    split at h
    · cases hd : takeDigits bytes with
      | error f => rw [hd] at h; cases h
      | ok p =>
        rw [hd] at h
        cases h
        exact Nat.le_succ_of_le (Nat.le_of_lt (length_takeDigits_lt hd))
    · cases h; exact Nat.le_refl _

theorem length_takeExponent_le {bytes rest : Bytes} {exponent : Option Int}
    (h : takeExponent bytes = .ok (exponent, rest)) : rest.length ≤ bytes.length := by
  unfold takeExponent at h
  split at h
  · cases h; exact Nat.le_refl _
  · rename_i b bytes
    split at h
    · simp only at h
      cases hd : takeDigits
          (if (bytes.head?.any (isByte · '-') || bytes.head?.any (isByte · '+')) = true
            then bytes.drop 1 else bytes) with
      | error f => rw [hd] at h; cases h
      | ok p =>
        rw [hd] at h
        cases h
        have := length_takeDigits_lt hd
        split at this <;> simp only [List.length_drop, List.length_cons] at * <;> omega
    · cases h; exact Nat.le_refl _

theorem length_takeNumber_lt {negative : Bool} {bytes rest : Bytes} {v : Value}
    (h : takeNumber negative bytes = .ok (v, rest)) : rest.length < bytes.length := by
  unfold takeNumber at h
  cases hw : takeWhole bytes with
  | error f => rw [hw] at h; cases h
  | ok p =>
    rw [hw] at h
    simp only [bind, Except.bind] at h
    cases hf : takeFraction p.2 with
    | error f => rw [hf] at h; cases h
    | ok q =>
      rw [hf] at h
      simp only at h
      cases he : takeExponent q.2 with
      | error f => rw [he] at h; cases h
      | ok r =>
        rw [he] at h
        simp only at h
        split at h
        · cases h
          exact Nat.lt_of_le_of_lt (length_takeExponent_le he)
            (Nat.lt_of_le_of_lt (length_takeFraction_le hf) (length_takeWhole_lt hw))
        · cases h

theorem length_takeString_le {done bytes : Bytes} {result : Bytes × Bytes}
    (h : takeString done bytes = .ok result) : result.2.length ≤ bytes.length := by
  fun_induction takeString done bytes
  all_goals first
    | (cases h; done)
    | (cases h; exact Nat.le_succ _)
    | (rename_i ih; have := ih h; simp only [List.length_cons]; omega)

theorem length_scalarToken_le {e : Except Fault (Value × Bytes)} {n : Nat}
    (h : ∀ v rest, e = .ok (v, rest) → rest.length ≤ n) : (scalarToken e).2.length ≤ n := by
  unfold scalarToken
  split
  · exact h _ _ rfl
  · exact Nat.zero_le n

theorem length_stringToken_le {e : Except Fault (Bytes × Bytes)} {n : Nat}
    (h : ∀ p, e = .ok p → p.2.length ≤ n) : (stringToken e).2.length ≤ n := by
  unfold stringToken
  split
  · split
    · exact h _ rfl
    · exact Nat.zero_le n
  · exact Nat.zero_le n

theorem length_word_le (cs : List Char) (v : Value) (bytes : Bytes) :
    (word cs v bytes).2.length ≤ bytes.length := by
  apply length_scalarToken_le
  intro v' rest h
  cases he : expectWord cs bytes with
  | error f => rw [he] at h; cases h
  | ok r =>
    rw [he] at h
    cases h
    exact length_expectWord_le he

theorem length_ite_le {c : Prop} [Decidable c] {x y : Token × Bytes} {n : Nat}
    (hx : x.2.length ≤ n) (hy : y.2.length ≤ n) : (if c then x else y).2.length ≤ n := by
  split
  · exact hx
  · exact hy

theorem Token.length_next_le (b : UInt8) (rest : Bytes) :
    (Token.next b rest).2.length ≤ rest.length := by
  unfold Token.next
  repeat' apply length_ite_le
  all_goals first
    | exact Nat.le_refl _
    | exact Nat.zero_le _
    | exact length_word_le _ _ _
    | exact length_stringToken_le fun p h => length_takeString_le h
    | exact length_scalarToken_le fun v r h => Nat.le_of_lt (length_takeNumber_lt h)
    | exact length_scalarToken_le fun v r h => Nat.le_of_lt_succ (length_takeNumber_lt h)

def Token.scan (bytes : Bytes) : List Token :=
  match bytes with
  | [] => []
  | b :: rest =>
    if isSpace b then
      Token.scan rest
    else
      (Token.next b rest).1 :: Token.scan (Token.next b rest).2
termination_by bytes.length
decreasing_by
  · exact Nat.lt_succ_self _
  · exact Nat.lt_succ_of_le (Token.length_next_le b rest)

end DataMatch.Json
