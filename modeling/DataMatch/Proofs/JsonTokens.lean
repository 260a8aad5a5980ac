import Mathlib.Tactic.IntervalCases
import Mathlib.Tactic.SplitIfs
import DataMatch.Json.Scan
import DataMatch.Json.Text
import DataMatch.Proofs.Encoding
import DataMatch.Proofs.FixedWidth

/-! Strings and integers that are written are scanned as what they were written for. A string ends
at its own quote, since no other is left unescaped. An integer ends where its digits do, so what
comes next must not go on with a number. -/
namespace DataMatch

namespace Text

variable {digits : List Char}

@[elab_as_elim]
theorem of_digits {motive : Char → Prop} {c : Char} (digit : c.isDigit = true)
    (each : ∀ d < 10, motive (Nat.digitChar d)) : motive c := by
  obtain ⟨d, small, rfl⟩ := exists_digitChar digit
  exact each d small

theorem ascii_of_digit {c : Char} (digit : c.isDigit = true) :
    String.utf8EncodeChar c = [c.toUInt8] ∧ Char.ofUInt8 c.toUInt8 = c :=
  of_digits digit (by decide)

theorem encode_digits (only : ∀ c ∈ digits, c.isDigit = true) :
    digits.flatMap String.utf8EncodeChar = digits.map Char.toUInt8 := by
  induction digits with
  | nil => rfl
  | cons c cs ih =>
    obtain ⟨digit, others⟩ := List.forall_mem_cons.mp only
    rw [List.flatMap_cons, (ascii_of_digit digit).1, ih others]
    rfl

theorem toBytes_repr (n : Nat) : toBytes (Nat.repr n) = (Nat.toDigits 10 n).map Char.toUInt8 := by
  rw [toBytes_eq, Nat.toList_repr]
  exact encode_digits fun c => isDigit_of_mem_decimal

theorem eq_zero_of_head {n : Nat} (zero : (Nat.toDigits 10 n).head? = some '0') : n = 0 := by
  induction n using Nat.strongRecOn with
  | ind n ih =>
    by_cases small : n < 10
    · have single : ∀ d < 10, [Nat.digitChar d].head? = some '0' → d = 0 := by decide
      rw [Nat.toDigits_of_lt_base small] at zero
      exact single n small zero
    · rw [Nat.toDigits_of_base_le (by decide) (Nat.not_lt.mp small)] at zero
      cases front : Nat.toDigits 10 (n / 10) with
      | nil => exact absurd front Nat.toDigits_ne_nil
      | cons c cs =>
        rw [front] at zero
        have none := ih (n / 10) (by omega) (front ▸ zero)
        omega

end Text

namespace Json

open Text

def IsPlain (b : UInt8) : Prop := 0x20 ≤ b.toNat ∧ b.toNat ≠ 0x22 ∧ b.toNat ≠ 0x5C

section Strings

variable {done rest bytes : Bytes} {b : UInt8} {c : Char}

theorem takeString_end : takeString done (0x22 :: rest) = .ok (done.reverse, rest) := by
  rw [takeString.eq_def]
  rfl

theorem takeString_short {e : UInt8} (other : isByte e 'u' = false)
    (short : shortEscape? e = some c) :
    takeString done (0x5C :: e :: rest) = takeString (c.toUInt8 :: done) rest := by
  have quote : isByte 0x5C '"' = false := by decide
  have escape : isByte 0x5C '\\' = true := by decide
  rw [takeString.eq_def]
  simp [quote, escape, other, short]

theorem takeString_unit {u v w x : UInt8} {n : Nat} (unit : hexUnit? u v w x = some n)
    (small : n < 0xD800) :
    takeString done (0x5C :: 0x75 :: u :: v :: w :: x :: rest) =
      takeString ((String.utf8EncodeChar (Char.ofNat n)).reverse ++ done) rest := by
  have quote : isByte 0x5C '"' = false := by decide
  have escape : isByte 0x5C '\\' = true := by decide
  have mark : isByte 0x75 'u' = true := by decide
  have leading : isLeading n = false := by
    simp [isLeading]
    omega
  have trailing : isTrailing n = false := by
    simp [isTrailing]
    omega
  rw [takeString.eq_def]
  simp [quote, escape, mark, unit, leading, trailing]

theorem takeString_plain (plain : IsPlain b) :
    takeString done (b :: rest) = takeString (b :: done) rest := by
  obtain ⟨low, quote, escape⟩ := plain
  have notQuote : isByte b '"' = false := beq_false_of_ne fun same => quote (same ▸ rfl)
  have notEscape : isByte b '\\' = false := beq_false_of_ne fun same => escape (same ▸ rfl)
  have shown : ¬ b < 0x20 := UInt8.not_lt.mpr (UInt8.le_iff_toNat_le.mpr low)
  rw [takeString.eq_def]
  simp [notQuote, notEscape, shown]

theorem takeString_plains (plain : ∀ b ∈ bytes, IsPlain b) :
    takeString done (bytes ++ rest) = takeString (bytes.reverse ++ done) rest := by
  induction bytes generalizing done with
  | nil => rfl
  | cons b bytes ih =>
    obtain ⟨own, others⟩ := List.forall_mem_cons.mp plain
    rw [List.cons_append, takeString_plain own, ih others, List.reverse_cons, List.append_assoc]
    rfl

theorem isPlain_of_high {n : Nat} (high : 128 ≤ n % 256) : IsPlain (UInt8.ofNat n) := by
  have value : (UInt8.ofNat n).toNat = n % 256 := rfl
  simp only [IsPlain, value]
  omega

theorem isPlain_encode (quote : c ≠ '"') (escape : c ≠ '\\') (shown : 0x20 ≤ c.toNat) :
    ∀ b ∈ String.utf8EncodeChar c, IsPlain b := by
  have two (n : Nat) : IsPlain (UInt8.ofNat (n % 32 + 192)) := isPlain_of_high (by omega)
  have three (n : Nat) : IsPlain (UInt8.ofNat (n % 16 + 224)) := isPlain_of_high (by omega)
  have four (n : Nat) : IsPlain (UInt8.ofNat (n % 8 + 240)) := isPlain_of_high (by omega)
  have later (n : Nat) : IsPlain (UInt8.ofNat (n % 64 + 128)) := isPlain_of_high (by omega)
  unfold String.utf8EncodeChar
  dsimp only
  split_ifs with single
  · have value : (UInt8.ofNat c.val.toNat).toNat = c.toNat :=
      Nat.mod_eq_of_lt (Nat.lt_of_le_of_lt single (by decide))
    simp only [List.forall_mem_singleton, IsPlain, value]
    exact ⟨shown, fun same => quote (Char.toNat_inj.mp same),
      fun same => escape (Char.toNat_inj.mp same)⟩
  · simp only [List.forall_mem_cons, two, later, true_and]
    nofun
  · simp only [List.forall_mem_cons, three, later, true_and]
    nofun
  · simp only [List.forall_mem_cons, four, later, true_and]
    nofun

theorem hexUnit_control : ∀ n < 0x20, ∃ high low : UInt8,
    (hexByte n).flatMap String.utf8EncodeChar = [high, low] ∧
      hexUnit? 0x30 0x30 high low = some n := by
  have each : ∀ n < 0x20, (hexByte n).flatMap String.utf8EncodeChar =
      [(Nat.digitChar (n / 16 % 16)).toUInt8, (Nat.digitChar (n % 16)).toUInt8] ∧
      hexUnit? 0x30 0x30 (Nat.digitChar (n / 16 % 16)).toUInt8 (Nat.digitChar (n % 16)).toUInt8 =
        some n := by
    decide
  exact fun n small => ⟨_, _, each n small⟩

theorem takeString_escape :
    takeString done ((escapeChar c).flatMap String.utf8EncodeChar ++ rest) =
      takeString ((String.utf8EncodeChar c).reverse ++ done) rest := by
  -- Seven characters have short escapes; other control characters are given by their number.
  unfold escapeChar
  split_ifs with quote backslash backspace tab newline feed carriage control
  · subst quote
    exact takeString_short (by decide) (by decide)
  · subst backslash
    exact takeString_short (by decide) (by decide)
  · subst backspace
    exact takeString_short (by decide) (by decide)
  · subst tab
    exact takeString_short (by decide) (by decide)
  · subst newline
    exact takeString_short (by decide) (by decide)
  · subst feed
    exact takeString_short (by decide) (by decide)
  · subst carriage
    exact takeString_short (by decide) (by decide)
  · obtain ⟨high, low, digits, unit⟩ := hexUnit_control _ control
    have read := @takeString_unit done rest _ _ _ _ _ unit (by omega)
    rw [Char.ofNat_toNat] at read
    simp only [List.flatMap_cons, digits]
    exact read
  · rw [List.flatMap_singleton]
    exact takeString_plains (isPlain_encode quote backslash (Nat.not_lt.mp control))

theorem takeString_escapes (cs : List Char) :
    takeString done ((cs.flatMap escapeChar).flatMap String.utf8EncodeChar ++ 0x22 :: rest) =
      .ok (done.reverse ++ cs.flatMap String.utf8EncodeChar, rest) := by
  induction cs generalizing done with
  | nil => simpa using takeString_end
  | cons c cs ih =>
    simp only [List.flatMap_cons, List.flatMap_append, List.append_assoc]
    rw [takeString_escape, ih]
    simp

theorem toBytes_quote (s : String) :
    toBytes (quote s) =
      0x22 :: ((s.toList.flatMap escapeChar).flatMap String.utf8EncodeChar ++ [0x22]) := by
  rw [toBytes_eq, quote, String.toList_ofList, List.cons_append, List.flatMap_cons,
    List.flatMap_append]
  rfl

theorem next_quote (s : String) :
    Token.next 0x22 ((s.toList.flatMap escapeChar).flatMap String.utf8EncodeChar ++ 0x22 :: rest) =
      (.string s, rest) := by
  have taken := @takeString_escapes [] rest s.toList
  have read : ofBytes? (s.toList.flatMap String.utf8EncodeChar) = some s :=
    ofBytes?_eq_some_iff.mpr rfl
  change stringToken (takeString [] _) = _
  rw [taken]
  simp [stringToken, read]

end Strings

def Closed (rest : Bytes) : Prop := ∀ b ∈ rest.head?, b = 0x2C ∨ b = 0x5D ∨ b = 0x7D

section Numbers

variable {rest : Bytes} {digits : List Char}

theorem Closed.cons {b : UInt8} (mark : b = 0x2C ∨ b = 0x5D ∨ b = 0x7D) (rest : Bytes) :
    Closed (b :: rest) := by
  rintro _ ⟨⟩
  exact mark

@[elab_as_elim]
theorem Closed.elim {motive : Bytes → Prop} (closed : Closed rest) (empty : motive [])
    (comma : ∀ rest, motive (0x2C :: rest)) (bracket : ∀ rest, motive (0x5D :: rest))
    (brace : ∀ rest, motive (0x7D :: rest)) : motive rest := by
  cases rest with
  | nil => exact empty
  | cons b rest =>
    obtain rfl | rfl | rfl := closed b rfl
    · exact comma rest
    · exact bracket rest
    · exact brace rest

theorem Closed.span (closed : Closed rest) :
    rest.takeWhile isDigitByte = [] ∧ rest.dropWhile isDigitByte = rest :=
  closed.elim ⟨rfl, rfl⟩ (fun _ => ⟨rfl, rfl⟩) (fun _ => ⟨rfl, rfl⟩) fun _ => ⟨rfl, rfl⟩

theorem Closed.fraction (closed : Closed rest) : takeFraction rest = .ok (none, rest) :=
  closed.elim rfl (fun _ => rfl) (fun _ => rfl) fun _ => rfl

theorem Closed.exponent (closed : Closed rest) : takeExponent rest = .ok (none, rest) :=
  closed.elim rfl (fun _ => rfl) (fun _ => rfl) fun _ => rfl

theorem isDigitByte_of_digit {c : Char} (digit : c.isDigit = true) :
    isDigitByte c.toUInt8 = true ∧ isSpace c.toUInt8 = false :=
  of_digits digit (by decide)

theorem takeDigits_append (there : digits ≠ []) (only : ∀ c ∈ digits, c.isDigit = true)
    (closed : Closed rest) :
    takeDigits (digits.map Char.toUInt8 ++ rest) = .ok (digits, rest) := by
  have bytes : ∀ b ∈ digits.map Char.toUInt8, isDigitByte b = true := by
    simp only [List.forall_mem_map]
    exact fun c member => (isDigitByte_of_digit (only c member)).1
  have chars : digitChars (digits.map Char.toUInt8) = digits := by
    rw [digitChars, List.map_map]
    refine (List.map_congr_left fun c member => ?_).trans (List.map_id digits)
    exact (ascii_of_digit (only c member)).2
  simp only [takeDigits, List.takeWhile_append_of_pos bytes, List.dropWhile_append_of_pos bytes,
    closed.span, List.append_nil, chars, List.length_map]
  simp [there]

theorem takeWhole_decimal (n : Nat) (closed : Closed rest) :
    takeWhole ((Nat.toDigits 10 n).map Char.toUInt8 ++ rest) = .ok (Nat.toDigits 10 n, rest) := by
  have unpadded : ¬((Nat.toDigits 10 n).head? = some '0' ∧ Nat.toDigits 10 n ≠ ['0']) := by
    rintro ⟨zero, longer⟩
    obtain rfl := eq_zero_of_head zero
    exact longer rfl
  rw [takeWhole, takeDigits_append Nat.toDigits_ne_nil (fun c => isDigit_of_mem_decimal) closed]
  exact if_neg unpadded

theorem takeNumber_decimal {negative : Bool} {n : Nat} (range : integerRange negative n = true)
    (closed : Closed rest) :
    takeNumber negative ((Nat.toDigits 10 n).map Char.toUInt8 ++ rest) =
      .ok (.number (.int (if negative then -n else n)), rest) := by
  have number : numberOf negative (Nat.toDigits 10 n) none none =
      some (.int (if negative then -n else n)) := by
    simp [numberOf, Nat.ofDigitChars_ten_toDigits, range]
  simp only [takeNumber, takeWhole_decimal n closed, closed.fraction, closed.exponent, bind,
    Except.bind, number]

theorem next_digit {c : Char} (digit : c.isDigit = true) (rest : Bytes) :
    Token.next c.toUInt8 rest = scalarToken (takeNumber false (c.toUInt8 :: rest)) := by
  refine of_digits digit fun d small => ?_
  interval_cases d <;> rfl

theorem next_toString {n : Int} (fits : Word.Fits n) (closed : Closed rest) :
    ∃ b more, toBytes (toString n) = b :: more ∧ isSpace b = false ∧
      Token.next b (more ++ rest) = (.scalar (.int n), rest) := by
  obtain ⟨low, high⟩ := fits
  cases n with
  | ofNat n =>
    have below : n < Nat.pow 2 64 := Int.ofNat_lt.mp high
    have range : integerRange false n = true := decide_eq_true below
    have number := takeNumber_decimal range closed
    have shown : toBytes (toString (Int.ofNat n)) = (Nat.toDigits 10 n).map Char.toUInt8 :=
      toBytes_repr n
    cases digits : Nat.toDigits 10 n with
    | nil => exact absurd digits Nat.toDigits_ne_nil
    | cons c cs =>
      have digit : c.isDigit = true := isDigit_of_mem_decimal (digits ▸ List.mem_cons_self)
      rw [digits] at number shown
      refine ⟨c.toUInt8, cs.map Char.toUInt8, shown, (isDigitByte_of_digit digit).2, ?_⟩
      rw [next_digit digit]
      exact congrArg scalarToken number
  | negSucc n =>
    have above : n + 1 ≤ Nat.pow 2 63 := by omega
    have range : integerRange true (n + 1) = true := by simp [integerRange, above]
    have sign : toBytes "-" = [0x2D] := (toBytes_eq "-").trans rfl
    refine ⟨0x2D, (Nat.toDigits 10 (n + 1)).map Char.toUInt8, ?_, rfl, ?_⟩
    · change toBytes ("-" ++ Nat.repr (n + 1)) = _
      rw [toBytes_append, toBytes_repr, sign]
      rfl
    · exact congrArg scalarToken (takeNumber_decimal range closed)

end Numbers

end Json

end DataMatch
