import Mathlib.Tactic.SplitIfs
import DataMatch.Json.Text
import DataMatch.Proofs.PositionText

/-! The JSON text of a value is one line. Line breaks inside strings are escaped, and nothing else
that is written has any. -/
namespace DataMatch

def Text.IsLine (s : String) : Prop := '\n' ∉ s.toList

instance (s : String) : Decidable (Text.IsLine s) :=
  inferInstanceAs (Decidable ('\n' ∉ s.toList))

namespace Text

theorem IsLine.append {s t : String} (first : IsLine s) (second : IsLine t) : IsLine (s ++ t) := by
  unfold IsLine
  rw [String.toList_append, List.mem_append]
  exact not_or.mpr ⟨first, second⟩

theorem not_mem_intercalate {c : Char} {sep : List Char} {parts : List (List Char)}
    (apart : c ∉ sep) (each : ∀ part ∈ parts, c ∉ part) : c ∉ sep.intercalate parts := by
  induction parts with
  | nil => simp
  | cons part parts ih =>
    obtain ⟨head, tail⟩ := List.forall_mem_cons.mp each
    cases parts with
    | nil => simpa using head
    | cons next rest => simpa [head, apart] using ih tail

theorem isLine_intercalate {sep : String} {parts : List String} (apart : IsLine sep)
    (each : ∀ part ∈ parts, IsLine part) : IsLine (sep.intercalate parts) := by
  unfold IsLine
  rw [String.toList_intercalate]
  refine not_mem_intercalate apart fun part member => ?_
  obtain ⟨s, inside, rfl⟩ := List.mem_map.mp member
  exact each s inside

theorem isLine_toString (n : Int) : IsLine (toString n) := by
  intro member
  have blank := unblank_of_mem_toString member
  contradiction

theorem not_mem_decimalDigits (n : Nat) : '\n' ∉ decimalDigits n := by
  intro member
  have digit := isDigit_of_mem_decimal member
  contradiction

end Text

namespace Json

open Text (IsLine)

theorem digitChar_ne_newline : ∀ n < 16, Nat.digitChar n ≠ '\n' := by decide

theorem not_mem_escapeChar (c : Char) : '\n' ∉ escapeChar c := by
  have high := digitChar_ne_newline (c.toNat / 16 % 16) (Nat.mod_lt _ (by decide))
  have low := digitChar_ne_newline (c.toNat % 16) (Nat.mod_lt _ (by decide))
  unfold escapeChar
  split_ifs with quote backslash backspace tab newline formFeed carriageReturn control
  all_goals try decide
  · simp [hexByte, high.symm, low.symm]
  · simpa using Ne.symm newline

theorem isLine_quote (s : String) : IsLine (quote s) := by
  unfold IsLine quote
  simp [not_mem_escapeChar]

end Json

open Text (IsLine)

theorem Decimal.not_mem_positional {digits : List Char} (own : '\n' ∉ digits) (exponent : Int) :
    '\n' ∉ positional digits exponent := by
  have taken : ∀ n, '\n' ∉ digits.take n := fun n member => own (List.mem_of_mem_take member)
  have dropped : ∀ n, '\n' ∉ digits.drop n := fun n member => own (List.mem_of_mem_drop member)
  unfold positional
  split_ifs with small
  · simp [own]
  · dsimp only
    split_ifs with short
    · simp [own]
    · simp [taken, dropped]

theorem Decimal.not_mem_marked {digits : List Char} (own : '\n' ∉ digits) (exponent : Int) :
    '\n' ∉ marked digits exponent := by
  have taken : '\n' ∉ digits.take 1 := fun member => own (List.mem_of_mem_take member)
  have sign : '\n' ≠ if exponent < 0 then '-' else '+' := by
    split_ifs <;> decide
  unfold marked
  simp only [List.mem_append, List.mem_cons, not_or]
  refine ⟨⟨taken, ?_⟩, by decide, sign, Text.not_mem_decimalDigits _⟩
  split
  · exact List.not_mem_nil
  · have dropped : '\n' ∉ digits.drop 1 := fun member => own (List.mem_of_mem_drop member)
    simpa using dropped

theorem Decimal.Layout.not_mem_chars (l : Layout) (d : Decimal) : '\n' ∉ l.chars d := by
  have digits := Text.not_mem_decimalDigits d.coefficient
  unfold chars
  dsimp only
  split_ifs
  all_goals simp [not_mem_positional digits, not_mem_marked digits]

theorem Number.isLine_text (n : Number) : IsLine n.text := by
  cases n with
  | int n => exact Text.isLine_toString n
  | float x =>
    unfold IsLine Number.text Binary64.text
    rw [String.toList_ofList]
    exact Double.layout.not_mem_chars (Decimal.shortest x)

namespace Value

theorem itemTexts_eq_map (items : List Value) : itemTexts items = items.map text := by
  induction items with
  | nil => rfl
  | cons item rest ih => rw [itemTexts, ih, List.map_cons]

theorem memberTexts_eq_map (members : Members) :
    memberTexts members =
      members.map fun member => Json.quote member.1 ++ ":" ++ member.2.text := by
  induction members with
  | nil => rfl
  | cons member rest ih => rw [memberTexts, ih, List.map_cons]

theorem isLine_text (v : Value) : IsLine v.text := by
  induction v with
  | primitive v h =>
    cases v with
    | null => exact (by decide : IsLine "null")
    | bool b => cases b <;> decide
    | number n => exact n.isLine_text
    | string s => exact Json.isLine_quote s
    | array items => contradiction
    | object members => contradiction
  | array items ih =>
    rw [text, itemTexts_eq_map]
    have inner : IsLine (",".intercalate (items.map text)) := by
      refine Text.isLine_intercalate (by decide) fun part member => ?_
      obtain ⟨item, inside, rfl⟩ := List.mem_map.mp member
      exact ih item inside
    exact .append (.append (by decide) inner) (by decide)
  | object members ih =>
    rw [text, memberTexts_eq_map]
    have inner : IsLine (",".intercalate
        (members.map fun member => Json.quote member.1 ++ ":" ++ member.2.text)) := by
      refine Text.isLine_intercalate (by decide) fun part listed => ?_
      obtain ⟨member, inside, rfl⟩ := List.mem_map.mp listed
      exact .append (.append (Json.isLine_quote member.1) (by decide)) (ih member inside)
    exact .append (.append (by decide) inner) (by decide)

end Value

end DataMatch
