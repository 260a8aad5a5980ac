import DataMatch.Json.Reader
import DataMatch.Proofs.JsonLine
import DataMatch.Proofs.JsonTokens
import DataMatch.Proofs.Members

/-! JSON text is read as the value it was written for. The machine that reads it takes the text of a
value for the value wherever a value may stand: inside containers that are open and in front of
whatever ends it there. Induction over the value carries this from the parts of a container to the
whole. -/
namespace DataMatch

namespace Json

open Text

/-- What can be written and read again: integers of 64 bits but no doubles, no key twice in an object,
and no more containers around each other than there is room for. -/
inductive Writable : Nat → Value → Prop
  | null {room : Nat} : Writable room .null
  | bool {room : Nat} (b : Bool) : Writable room (.bool b)
  | int {room : Nat} {n : Int} (fits : Word.Fits n) : Writable room (.int n)
  | string {room : Nat} (s : String) : Writable room (.string s)
  | array {room : Nat} {items : List Value} (each : ∀ item ∈ items, Writable room item) :
      Writable (room + 1) (.array items)
  | object {room : Nat} {members : Members} (distinct : (members.map (·.1)).Nodup)
      (each : ∀ member ∈ members, Writable room member.2) : Writable (room + 1) (.object members)

def resume (depth : Nat) (r : Reading) (bytes : Bytes) : Except Fault Reading :=
  (Token.scan bytes).foldlM (Reading.step depth) r

/-- Wherever the machine waits for a value, and has room for its containers, it takes the text of this
one for it. -/
def TakenBack (depth room : Nat) (v : Value) : Prop :=
  ∀ (around : List Frame) (first : Bool) (rest : Bytes), around.length + room ≤ depth →
    Closed rest → resume depth (.value around first) (toBytes v.text ++ rest) =
      resume depth (.put around v) rest

section Tokens

variable {depth : Nat} {r r' : Reading} {rest after : Bytes} {b : UInt8} {t : Token} {s : String}

theorem resume_nil : resume depth r [] = .ok r := by
  rw [resume, Token.scan]
  rfl

theorem resume_cons (solid : isSpace b = false) (next : Token.next b rest = (t, after))
    (taken : r.step depth t = .ok r') : resume depth r (b :: rest) = resume depth r' after := by
  rw [resume, Token.scan, solid, next]
  simp only [Bool.false_eq_true, ↓reduceIte, List.foldlM_cons, taken]
  rfl

theorem resume_mark (b : UInt8) (t : Token) (solid : isSpace b = false)
    (alone : Token.next b rest = (t, rest)) (taken : r.step depth t = .ok r') :
    resume depth r (b :: rest) = resume depth r' rest :=
  resume_cons solid alone taken

theorem resume_quote (taken : r.step depth (.string s) = .ok r') :
    resume depth r (toBytes (quote s) ++ rest) = resume depth r' rest := by
  rw [toBytes_quote, List.cons_append, List.append_assoc]
  exact resume_cons rfl (next_quote s) taken

end Tokens

section Scalars

variable {depth room : Nat}

theorem takenBack_null : TakenBack depth room .null := by
  intro around first rest _ _
  have letters : toBytes "null" = [0x6E, 0x75, 0x6C, 0x6C] := (toBytes_eq "null").trans rfl
  rw [Value.text, letters]
  exact resume_cons rfl rfl rfl

theorem takenBack_bool (b : Bool) : TakenBack depth room (.bool b) := by
  intro around first rest _ _
  cases b with
  | false =>
    have letters : toBytes (Value.bool false).text = [0x66, 0x61, 0x6C, 0x73, 0x65] :=
      (toBytes_eq "false").trans rfl
    rw [letters]
    exact resume_cons rfl rfl rfl
  | true =>
    have letters : toBytes (Value.bool true).text = [0x74, 0x72, 0x75, 0x65] :=
      (toBytes_eq "true").trans rfl
    rw [letters]
    exact resume_cons rfl rfl rfl

theorem takenBack_int {n : Int} (fits : Word.Fits n) : TakenBack depth room (.int n) := by
  intro around first rest _ closed
  obtain ⟨b, more, shown, solid, next⟩ := next_toString fits closed
  have text : toBytes (Value.int n).text = b :: more := shown
  rw [text]
  exact resume_cons solid next rfl

theorem takenBack_string (s : String) : TakenBack depth room (.string s) :=
  fun _ _ _ _ _ => resume_quote rfl

end Scalars

section Containers

variable {depth room : Nat} {around : List Frame} {rest : Bytes} {items taken : List Value}
  {members before : Members}

theorem toBytes_none : toBytes (",".intercalate []) = [] := (toBytes_eq _).trans rfl

theorem toBytes_intercalate (part : String) (parts : List String) :
    toBytes (",".intercalate (part :: parts)) =
      toBytes part ++ parts.flatMap fun part => 0x2C :: toBytes part := by
  induction parts generalizing part with
  | nil => simp
  | cons next parts ih =>
    have comma : toBytes "," = [0x2C] := (toBytes_eq ",").trans rfl
    rw [String.intercalate_cons_cons, toBytes_append, toBytes_append, ih, comma, List.append_assoc]
    rfl

theorem closed_parts (parts : List String) (closed : Closed rest) :
    Closed ((parts.flatMap fun part => 0x2C :: toBytes part) ++ rest) := by
  cases parts with
  | nil => exact closed
  | cons part parts => exact .cons (.inl rfl) _

theorem toBytes_array (items : List Value) :
    toBytes (Value.array items).text =
      0x5B :: (toBytes (",".intercalate (items.map Value.text)) ++ [0x5D]) := by
  have opening : toBytes "[" = [0x5B] := (toBytes_eq "[").trans rfl
  have closing : toBytes "]" = [0x5D] := (toBytes_eq "]").trans rfl
  rw [Value.text, Value.itemTexts_eq_map, toBytes_append, toBytes_append, opening, closing]
  rfl

def memberText (member : String × Value) : String := quote member.1 ++ ":" ++ member.2.text

theorem toBytes_object (members : Members) :
    toBytes (Value.object members).text =
      0x7B :: (toBytes (",".intercalate (members.map memberText)) ++ [0x7D]) := by
  have opening : toBytes "\x7b" = [0x7B] := (toBytes_eq "\x7b").trans rfl
  have closing : toBytes "\x7d" = [0x7D] := (toBytes_eq "\x7d").trans rfl
  rw [Value.text, Value.memberTexts_eq_map, toBytes_append, toBytes_append, opening, closing]
  rfl

theorem resume_items (each : ∀ item ∈ items, TakenBack depth room item)
    (fits : around.length + 1 + room ≤ depth) :
    resume depth (.afterItem around taken)
        (((items.map Value.text).flatMap fun part => 0x2C :: toBytes part) ++ 0x5D :: rest) =
      resume depth (.put around (.array (taken.reverse ++ items))) rest := by
  induction items generalizing taken with
  | nil =>
    rw [List.append_nil]
    exact resume_mark 0x5D .closeArray rfl rfl rfl
  | cons item items ih =>
    obtain ⟨own, others⟩ := List.forall_mem_cons.mp each
    have closed := closed_parts (items.map Value.text) (.cons (.inr (.inl rfl)) rest)
    have next := @ih (item :: taken) others
    rw [List.reverse_cons, List.append_assoc] at next
    rw [List.map_cons, List.flatMap_cons, List.append_assoc, List.cons_append,
      resume_mark 0x2C .comma rfl rfl rfl, own (.array taken :: around) false _ fits closed]
    exact next

theorem takenBack_array (each : ∀ item ∈ items, TakenBack depth room item) :
    TakenBack depth (room + 1) (.array items) := by
  intro around first rest fits _
  have opened : (Reading.value around first).step depth .openArray =
      .ok (.value (.array [] :: around) true) := if_pos (by omega)
  rw [toBytes_array, List.cons_append, List.append_assoc, resume_mark 0x5B .openArray rfl rfl opened]
  cases items with
  | nil =>
    rw [List.map_nil, toBytes_none]
    exact resume_mark 0x5D .closeArray rfl rfl rfl
  | cons item items =>
    obtain ⟨own, others⟩ := List.forall_mem_cons.mp each
    have inner : around.length + 1 + room ≤ depth := by omega
    have closed := closed_parts (items.map Value.text) (.cons (.inr (.inl rfl)) rest)
    rw [List.map_cons, toBytes_intercalate, List.append_assoc]
    exact (own (.array [] :: around) true _ inner closed).trans (resume_items others inner)

theorem resume_member {member : String × Value} {first : Bool}
    (own : TakenBack depth room member.2) (fits : around.length + 1 + room ≤ depth)
    (closed : Closed rest) :
    resume depth (.key around before first) (toBytes (memberText member) ++ rest) =
      resume depth (.afterMember around (before.insert member.1 member.2)) rest := by
  have colon : toBytes ":" = [0x3A] := (toBytes_eq ":").trans rfl
  have named : (Reading.key around before first).step depth (.string member.1) =
    .ok (.colon around before member.1) := rfl
  rw [memberText, toBytes_append, toBytes_append, colon, List.append_assoc, List.append_assoc,
    resume_quote named, List.singleton_append, resume_mark 0x3A .colon rfl rfl rfl]
  exact own (.object before member.1 :: around) false rest fits closed

theorem resume_members (each : ∀ member ∈ members, TakenBack depth room member.2)
    (fits : around.length + 1 + room ≤ depth) (distinct : ((before ++ members).map (·.1)).Nodup) :
    resume depth (.afterMember around before)
        (((members.map memberText).flatMap fun part => 0x2C :: toBytes part) ++ 0x7D :: rest) =
      resume depth (.put around (.object (before ++ members))) rest := by
  -- On the members to come; those that were read stand before them in the open object.
  induction members generalizing before with
  | nil =>
    rw [List.append_nil]
    exact resume_mark 0x7D .closeObject rfl rfl rfl
  | cons member members ih =>
    obtain ⟨own, others⟩ := List.forall_mem_cons.mp each
    have closed := closed_parts (members.map memberText) (.cons (.inr (.inr rfl)) rest)
    have next := @ih (before ++ [member]) others
    rw [List.append_assoc, List.singleton_append] at next
    rw [List.map_cons, List.flatMap_cons, List.append_assoc, List.cons_append,
      resume_mark 0x2C .comma rfl rfl rfl, resume_member own fits closed,
      Members.insert_of_fresh (fresh_of_distinct distinct)]
    exact next distinct

theorem takenBack_object (distinct : (members.map (·.1)).Nodup)
    (each : ∀ member ∈ members, TakenBack depth room member.2) :
    TakenBack depth (room + 1) (.object members) := by
  intro around first rest fits _
  have opened : (Reading.value around first).step depth .openObject = .ok (.key around [] true) :=
    if_pos (by omega)
  rw [toBytes_object, List.cons_append, List.append_assoc,
    resume_mark 0x7B .openObject rfl rfl opened]
  cases members with
  | nil =>
    rw [List.map_nil, toBytes_none]
    exact resume_mark 0x7D .closeObject rfl rfl rfl
  | cons member members =>
    obtain ⟨own, others⟩ := List.forall_mem_cons.mp each
    have inner : around.length + 1 + room ≤ depth := by omega
    have closed := closed_parts (members.map memberText) (.cons (.inr (.inr rfl)) rest)
    rw [List.map_cons, toBytes_intercalate, List.append_assoc]
    exact (resume_member own inner closed).trans (resume_members others inner distinct)

end Containers

theorem Writable.takenBack {depth room : Nat} {v : Value} (writable : Writable room v) :
    TakenBack depth room v := by
  induction writable with
  | null => exact takenBack_null
  | bool b => exact takenBack_bool b
  | int fits => exact takenBack_int fits
  | string s => exact takenBack_string s
  | array _ ih => exact takenBack_array ih
  | object distinct _ ih => exact takenBack_object distinct ih

theorem read_text {v : Value} (writable : Writable depthLimit v) :
    read (toBytes v.text) = .ok v := by
  have room : ([] : List Frame).length + depthLimit ≤ depthLimit := Nat.le_of_eq (Nat.zero_add _)
  have taken := writable.takenBack [] false [] room nofun
  rw [List.append_nil] at taken
  change (resume depthLimit (.value [] false) (toBytes v.text) >>= Reading.finish) = .ok v
  rw [taken, resume_nil]
  rfl

end Json

end DataMatch
