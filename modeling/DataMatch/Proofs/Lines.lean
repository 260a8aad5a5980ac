import Mathlib.Data.List.ReduceOption
import Mathlib.Data.List.TakeWhile
import DataMatch.Format.JsonLines
import DataMatch.Proofs.Encoding
import DataMatch.Proofs.Traversal

/-! How bytes are divided into lines, and what the lines give. JSON lines are read exactly if each
line is blank or holds one value; else the first line that does neither is the error. Blank lines
move the line numbers and change nothing else. -/
namespace DataMatch

namespace Text

theorem trimChars_eq_nil_iff {cs : List Char} :
    trimChars cs = [] ↔ ∀ c ∈ cs, isBlank c = true := by
  rw [trimChars, List.reverse_eq_nil_iff, List.dropWhile_eq_nil_iff]
  constructor
  · intro blank c member
    rw [← List.takeWhile_append_dropWhile (p := isBlank) (l := cs), List.mem_append] at member
    rcases member with before | after
    · exact List.mem_takeWhile_imp before
    · exact blank c (List.mem_reverse.mpr after)
  · intro blank c member
    exact blank c ((List.dropWhile_sublist isBlank).mem (List.mem_reverse.mp member))

theorem isEmpty_trim_iff {s : String} :
    (trim s).isEmpty = true ↔ ∀ c ∈ s.toList, isBlank c = true := by
  rw [← trimChars_eq_nil_iff, trim, String.isEmpty_iff, String.ofList_eq_empty_iff]

theorem trimChars_append_blank {c : Char} (blank : isBlank c = true) (cs : List Char) :
    trimChars (cs ++ [c]) = trimChars cs := by
  rw [trimChars, trimChars, List.dropWhile_append]
  split
  · rename_i before
    rw [List.isEmpty_iff.mp before]
    simp [blank]
  · rw [List.reverse_append, List.reverse_singleton, List.singleton_append,
      List.dropWhile_cons_of_pos blank]

theorem trim_append_return (s : String) : trim (s ++ "\r") = trim s := by
  rw [trim, trim, String.toList_append]
  exact congrArg String.ofList (trimChars_append_blank (by decide) s.toList)

end Text

def ReadError.renumber (place : Nat → Nat) : ReadError → ReadError
  | .jsonLine number fault => .jsonLine (place number) fault
  | e => e

theorem ReadError.renumber_self (e : ReadError) : e.renumber (fun number => number) = e := by
  cases e <;> rfl

theorem ReadError.renumber_renumber (f g : Nat → Nat) (e : ReadError) :
    (e.renumber f).renumber g = e.renumber fun n => g (f n) := by
  cases e <;> rfl

namespace JsonLines

open Text (isByte)

/-- What stands before a line feed, and the line that it is: the carriage return at its end is no
part of the line. -/
inductive Ends : Bytes → Bytes → Prop
  | bare {line : Bytes} (last : line.getLast? ≠ some 0x0D) : Ends line line
  | returned {line : Bytes} : Ends (line ++ [0x0D]) line

/-- Bytes and the lines they consist of. What follows the last line feed is a line only if it is
not empty. -/
inductive Framed : Bytes → List Bytes → Prop
  | empty : Framed [] []
  | unended {line : Bytes} (nonempty : line ≠ []) (unbroken : 0x0A ∉ line) : Framed line [line]
  | ended {stretch line rest : Bytes} {lines : List Bytes} (unbroken : 0x0A ∉ stretch)
      (cut : Ends stretch line) (below : Framed rest lines) :
      Framed (stretch ++ 0x0A :: rest) (line :: lines)

inductive Gives (line : Bytes) : Option Value → Prop
  | blank {s : String} (text : Text.ofBytes? line = some s)
      (blank : ∀ c ∈ s.toList, Text.isBlank c = true) : Gives line none
  | value {s : String} {v : Value} (text : Text.ofBytes? line = some s)
      (shown : ∃ c ∈ s.toList, Text.isBlank c = false)
      (json : Json.read (Text.toBytes (Text.trim s)) = .ok v) : Gives line (some v)

inductive Fails (number : Nat) (line : Bytes) : ReadError → Prop
  | notText (bytes : Text.ofBytes? line = none) : Fails number line .lineNotText
  | notJson {s : String} {fault : Json.Fault} (text : Text.ofBytes? line = some s)
      (shown : ∃ c ∈ s.toList, Text.isBlank c = false)
      (json : Json.read (Text.toBytes (Text.trim s)) = .error fault) :
      Fails number line (.jsonLine number fault)

/-- Lines with others put in between: the first gap before the first line, and so on. -/
def spread : List (List Bytes) → List Bytes → List Bytes
  | [], lines => lines
  | gap :: gaps, [] => gap ++ spread gaps []
  | gap :: gaps, line :: lines => gap ++ line :: spread gaps lines

section Framing

variable {bytes stretch line other rest after : Bytes} {lines others : List Bytes}

theorem Ends.unique (h : Ends stretch line) (h' : Ends stretch other) : line = other := by
  generalize same : stretch = bytes at h'
  cases h with
  | bare last =>
    cases h' with
    | bare => exact same
    | returned => simp [same] at last
  | returned =>
    cases h' with
    | bare last => simp [← same] at last
    | returned => exact (List.append_inj' same rfl).1

theorem exists_ends (stretch : Bytes) : ∃ line, Ends stretch line := by
  by_cases last : stretch.getLast? = some 0x0D
  · obtain ⟨line, rfl⟩ := List.getLast?_eq_some_iff.mp last
    exact ⟨line, .returned⟩
  · exact ⟨stretch, .bare last⟩

theorem eq_of_append_break (unbroken : 0x0A ∉ line) (unbroken' : 0x0A ∉ other)
    (same : line ++ 0x0A :: rest = other ++ 0x0A :: after) : line = other ∧ rest = after := by
  induction line generalizing other with
  | nil =>
    cases other with
    | nil => exact ⟨rfl, (List.cons.inj same).2⟩
    | cons b other => exact absurd (List.cons.inj same).1 (List.ne_of_not_mem_cons unbroken')
  | cons b line ih =>
    cases other with
    | nil => exact absurd (List.cons.inj same).1.symm (List.ne_of_not_mem_cons unbroken)
    | cons b' other =>
      obtain ⟨rfl, tails⟩ := List.cons.inj same
      obtain ⟨rfl, below⟩ := ih (List.not_mem_of_not_mem_cons unbroken)
        (List.not_mem_of_not_mem_cons unbroken') tails
      exact ⟨rfl, below⟩

theorem Framed.unique (h : Framed bytes lines) (h' : Framed bytes others) : lines = others := by
  induction h generalizing others with
  | empty =>
    generalize same : ([] : Bytes) = bytes at h'
    cases h' with
    | empty => rfl
    | unended nonempty => exact absurd same.symm nonempty
    | ended => simp at same
  | @unended line nonempty unbroken =>
    generalize same : line = bytes at h'
    cases h' with
    | empty => contradiction
    | unended => rw [← same]
    | ended => simp [same] at unbroken
  | @ended stretch line rest lines unbroken cut below ih =>
    generalize same : stretch ++ 0x0A :: rest = bytes at h'
    cases h' with
    | empty => simp at same
    | unended _ whole => simp [← same] at whole
    | ended unbroken' cut' below' =>
      obtain ⟨rfl, rfl⟩ := eq_of_append_break unbroken unbroken' same
      rw [cut.unique cut', ih below']

theorem exists_framed (bytes : Bytes) : ∃ lines, Framed bytes lines := by
  by_cases broken : 0x0A ∈ bytes
  · obtain ⟨stretch, rest, split, unbroken⟩ := List.eq_append_cons_of_mem broken
    obtain ⟨line, cut⟩ := exists_ends stretch
    have shorter : rest.length < bytes.length := by
      rw [split, List.length_append, List.length_cons]
      omega
    obtain ⟨lines, below⟩ := exists_framed rest
    exact ⟨line :: lines, split ▸ .ended unbroken cut below⟩
  · by_cases nonempty : bytes = []
    · exact ⟨[], nonempty ▸ .empty⟩
    · exact ⟨[bytes], .unended nonempty broken⟩
termination_by bytes.length

theorem splitLines_cons {b : UInt8} (other : b ≠ 0x0A) (nonempty : rest ≠ [])
    (below : splitLines rest = line :: lines) : splitLines (b :: rest) = (b :: line) :: lines := by
  have inside : ¬ isByte b '\n' = true := fun same => other (eq_of_beq same)
  cases rest with
  | nil => contradiction
  | cons b' rest =>
    refine (if_neg inside).trans ?_
    rw [below]

theorem splitLines_unbroken (nonempty : line ≠ []) (unbroken : 0x0A ∉ line) :
    splitLines line = [line] := by
  induction line with
  | nil => contradiction
  | cons b line ih =>
    have other : b ≠ 0x0A := (List.ne_of_not_mem_cons unbroken).symm
    cases line with
    | nil =>
      have inside : ¬ isByte b '\n' = true := fun same => other (eq_of_beq same)
      exact if_neg inside
    | cons b' line =>
      have below := ih (List.cons_ne_nil _ _) (List.not_mem_of_not_mem_cons unbroken)
      exact splitLines_cons other (List.cons_ne_nil _ _) below

theorem splitLines_append (unbroken : 0x0A ∉ line) :
    splitLines (line ++ 0x0A :: rest) = line :: splitLines rest := by
  induction line with
  | nil => rfl
  | cons b line ih =>
    have below := ih (List.not_mem_of_not_mem_cons unbroken)
    exact splitLines_cons (List.ne_of_not_mem_cons unbroken).symm (by simp) below

end Framing

section Reading

variable {bytes other line stretch : Bytes} {lines gap : List Bytes} {gaps : List (List Bytes)}
  {given : Option Value} {values : List Value} {e : ReadError} {number : Nat}

theorem not_isEmpty_trim_iff {s : String} :
    ¬ (Text.trim s).isEmpty = true ↔ ∃ c ∈ s.toList, Text.isBlank c = false := by
  rw [Text.isEmpty_trim_iff]
  simp

theorem Gives.readLine_eq (gives : Gives line given) : readLine number line = .ok given := by
  unfold readLine
  cases gives with
  | blank text blank =>
    rw [text]
    exact if_pos (Text.isEmpty_trim_iff.mpr blank)
  | value text shown json =>
    rw [text]
    refine (if_neg (not_isEmpty_trim_iff.mpr shown)).trans ?_
    rw [json]

theorem Fails.readLine_eq (fails : Fails number line e) : readLine number line = .error e := by
  unfold readLine
  cases fails with
  | notText bytes => rw [bytes]
  | notJson text shown json =>
    rw [text]
    refine (if_neg (not_isEmpty_trim_iff.mpr shown)).trans ?_
    rw [json]

theorem gives_or_fails (line : Bytes) :
    (∃ given, Gives line given) ∨ ∀ number, ∃ e, Fails number line e := by
  cases text : Text.ofBytes? line with
  | none => exact .inr fun number => ⟨_, .notText text⟩
  | some s =>
    by_cases blank : ∀ c ∈ s.toList, Text.isBlank c = true
    · exact .inl ⟨_, .blank text blank⟩
    · have shown : ∃ c ∈ s.toList, Text.isBlank c = false := by simpa using blank
      cases json : Json.read (Text.toBytes (Text.trim s)) with
      | error fault => exact .inr fun number => ⟨_, .notJson text shown json⟩
      | ok v => exact .inl ⟨_, .value text shown json⟩

theorem readFrom_cons :
    readFrom number (line :: lines) = (do
      let first ← readLine number line
      let others ← readFrom (number + 1) lines
      return first.toList ++ others) := rfl

theorem readFrom_of_gives {given : List (Option Value)} (each : List.Forall₂ Gives lines given) :
    readFrom number lines = .ok given.reduceOption := by
  induction each generalizing number with
  | nil => rfl
  | @cons line first lines given head tail ih =>
    rw [readFrom_cons, head.readLine_eq, ih]
    cases first <;> rfl

theorem readFrom_of_fails {before after : List Bytes} (sound : ∀ l ∈ before, ∃ given, Gives l given)
    (fails : Fails (number + before.length) line e) :
    readFrom number (before ++ line :: after) = .error e := by
  induction before generalizing number with
  | nil =>
    have here : readLine number line = .error e := fails.readLine_eq
    rw [List.nil_append, readFrom_cons, here]
    rfl
  | cons first before ih =>
    obtain ⟨⟨given, gives⟩, sound⟩ := List.forall_mem_cons.mp sound
    rw [List.length_cons, Nat.add_comm before.length, ← Nat.add_assoc] at fails
    rw [List.cons_append, readFrom_cons, gives.readLine_eq, ih sound fails]
    rfl

theorem exists_given_of_sound (sound : ∀ l ∈ lines, ∃ given, Gives l given) :
    ∃ given, List.Forall₂ Gives lines given := by
  induction lines with
  | nil => exact ⟨[], .nil⟩
  | cons line lines ih =>
    obtain ⟨⟨first, head⟩, sound⟩ := List.forall_mem_cons.mp sound
    obtain ⟨given, tail⟩ := ih sound
    exact ⟨first :: given, .cons head tail⟩

theorem all_give_or_first_fails (number : Nat) (lines : List Bytes) :
    (∃ given, List.Forall₂ Gives lines given) ∨
      ∃ before line after e, lines = before ++ line :: after ∧
        (∀ l ∈ before, ∃ given, Gives l given) ∧ Fails (number + before.length) line e := by
  rcases forall_or_exists_first fun line (_ : line ∈ lines) => gives_or_fails line with
    sound | ⟨before, line, after, split, sound, faulty⟩
  · exact .inl (exists_given_of_sound sound)
  · obtain ⟨e, fails⟩ := faulty (number + before.length)
    exact .inr ⟨before, line, after, e, split, sound, fails⟩

theorem readFrom_eq_ok_iff : readFrom number lines = .ok values ↔
    ∃ given, List.Forall₂ Gives lines given ∧ values = given.reduceOption := by
  constructor
  · intro read
    rcases all_give_or_first_fails number lines with
      ⟨given, each⟩ | ⟨before, line, after, e, rfl, sound, fails⟩
    · rw [readFrom_of_gives each] at read
      exact ⟨given, each, (Except.ok.inj read).symm⟩
    · rw [readFrom_of_fails sound fails] at read
      contradiction
  · rintro ⟨given, each, rfl⟩
    exact readFrom_of_gives each

theorem readFrom_eq_error_iff : readFrom number lines = .error e ↔
    ∃ before line after, lines = before ++ line :: after ∧
      (∀ l ∈ before, ∃ given, Gives l given) ∧ Fails (number + before.length) line e := by
  constructor
  · intro failed
    rcases all_give_or_first_fails number lines with
      ⟨given, each⟩ | ⟨before, line, after, fault, rfl, sound, fails⟩
    · rw [readFrom_of_gives each] at failed
      contradiction
    · rw [readFrom_of_fails sound fails] at failed
      obtain rfl := Except.error.inj failed
      exact ⟨before, line, after, rfl, sound, fails⟩
  · rintro ⟨before, line, after, rfl, sound, fails⟩
    exact readFrom_of_fails sound fails

theorem Ends.withoutReturn_eq (cut : Ends stretch line) : withoutReturn stretch = line := by
  cases cut with
  | bare last =>
    refine if_neg fun returned => last ?_
    cases there : line.getLast? with
    | none => simp [there] at returned
    | some b =>
      rw [there] at returned
      exact congrArg some (eq_of_beq returned)
  | returned =>
    rw [withoutReturn, List.getLast?_concat, List.dropLast_concat]
    rfl

theorem Ends.readLine_eq (cut : Ends stretch line) :
    readLine number stretch = readLine number line := by
  cases cut with
  | bare => rfl
  | returned =>
    unfold readLine
    rw [Text.ofBytes?_append_return]
    cases Text.ofBytes? line with
    | none => rfl
    | some s =>
      dsimp only [Option.map]
      rw [Text.trim_append_return]

theorem Framed.readFrom_eq (framed : Framed bytes lines) :
    readFrom number ((splitLines bytes).map withoutReturn) = readFrom number lines := by
  induction framed generalizing number with
  | empty => rfl
  | @unended line nonempty unbroken =>
    obtain ⟨cut, ends⟩ := exists_ends line
    rw [splitLines_unbroken nonempty unbroken, List.map_singleton, ends.withoutReturn_eq,
      readFrom_cons, readFrom_cons, ends.readLine_eq]
  | ended unbroken cut below ih =>
    rw [splitLines_append unbroken, List.map_cons, cut.withoutReturn_eq, readFrom_cons,
      readFrom_cons, ih]

theorem readLine_add (k : Nat) :
    readLine (number + k) line = (readLine number line).mapError (.renumber (· + k)) := by
  unfold readLine
  cases Text.ofBytes? line with
  | none => rfl
  | some s =>
    dsimp only
    split
    · rfl
    · cases Json.read (Text.toBytes (Text.trim s)) <;> rfl

theorem readFrom_add (number k : Nat) :
    readFrom (number + k) lines = (readFrom number lines).mapError (.renumber (· + k)) := by
  induction lines generalizing number with
  | nil => rfl
  | cons line lines ih =>
    rw [readFrom_cons, readFrom_cons, readLine_add, Nat.add_right_comm, ih]
    cases readLine number line with
    | error => rfl
    | ok first => cases readFrom (number + 1) lines <;> rfl

theorem readFrom_blank (blank : ∀ l ∈ gap, Gives l none) :
    readFrom number (gap ++ lines) = readFrom (number + gap.length) lines := by
  induction gap generalizing number with
  | nil => rfl
  | cons l gap ih =>
    obtain ⟨head, tail⟩ := List.forall_mem_cons.mp blank
    rw [List.cons_append, readFrom_cons, Gives.readLine_eq head, ih tail, List.length_cons,
      Nat.add_comm gap.length, ← Nat.add_assoc]
    cases readFrom (number + 1 + gap.length) lines <;> rfl

theorem readFrom_spread (blank : ∀ gap ∈ gaps, ∀ l ∈ gap, Gives l none) :
    readFrom 1 (spread gaps lines) = (readFrom 1 lines).mapError
      (.renumber fun number => number + (gaps.take number).flatten.length) := by
  induction gaps generalizing lines with
  | nil =>
    cases read : readFrom 1 lines with
    | ok values => rw [spread, read, Except.mapError]
    | error e => simp [spread, read, Except.mapError, ReadError.renumber_self]
  | cons gap gaps ih =>
    obtain ⟨head, tail⟩ := List.forall_mem_cons.mp blank
    cases lines with
    | nil =>
      rw [spread, readFrom_blank head, readFrom_add, ih tail]
      rfl
    | cons line lines =>
      rw [spread, readFrom_blank head, readFrom_add, readFrom_cons, readFrom_cons,
        readFrom_add 1 1, ih tail, readFrom_add 1 1]
      rcases gives_or_fails line with ⟨given, gives⟩ | faulty
      · rw [gives.readLine_eq]
        cases readFrom 1 lines with
        | ok values => rfl
        | error e =>
          refine congrArg Except.error ?_
          rw [ReadError.renumber_renumber, ReadError.renumber_renumber,
            ReadError.renumber_renumber]
          refine congrArg e.renumber (funext fun number => ?_)
          rw [List.take_succ_cons, List.flatten_cons, List.length_append]
          omega
      -- the first line is the faulty one, and only the first gap stands before it
      · obtain ⟨e, fails⟩ := faulty 1
        rw [fails.readLine_eq]
        cases fails with
        | notText => rfl
        | notJson => simp [bind, Except.bind, Except.mapError, ReadError.renumber]

end Reading

/-- Bytes are divided into lines in one way. What is read is what the lines give, in order, or the
fault of the first line that gives nothing, whose number counts every line. Further blank lines
move that number by as many as stand before it and have no other influence. -/
theorem read_lines (bytes : Bytes) : ∃ lines, Framed bytes lines ∧
    (∀ others, Framed bytes others → others = lines) ∧
    (∀ values, read bytes = .ok values ↔
      ∃ given, List.Forall₂ Gives lines given ∧ values = given.reduceOption) ∧
    (∀ e, read bytes = .error e ↔ ∃ before line after, lines = before ++ line :: after ∧
      (∀ l ∈ before, ∃ given, Gives l given) ∧ Fails (1 + before.length) line e) ∧
    ∀ (gaps : List (List Bytes)) (other : Bytes), (∀ gap ∈ gaps, ∀ l ∈ gap, Gives l none) →
      Framed other (spread gaps lines) →
      read other = (read bytes).mapError
        (.renumber fun number => number + (gaps.take number).flatten.length) := by
  obtain ⟨lines, framed⟩ := exists_framed bytes
  have same : read bytes = readFrom 1 lines := framed.readFrom_eq
  rw [same]
  refine ⟨lines, framed, fun others framed' => framed'.unique framed,
    fun values => readFrom_eq_ok_iff, fun e => readFrom_eq_error_iff, ?_⟩
  intro gaps other blank framed'
  have moved : read other = readFrom 1 (spread gaps lines) := framed'.readFrom_eq
  rw [moved, readFrom_spread blank]

example : read (Text.toBytes " \r\n[\n") = .error (.jsonLine 2 .unfinished) := by cbv

end JsonLines

end DataMatch
