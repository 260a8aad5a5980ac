import DataMatch.Proofs.ReadBack

/-! The reserved keys of an object may stand anywhere. Each member that is read changes one part of
the record, and members that change different parts can be read in either order. -/
namespace DataMatch.Document

/-- The second document comes from the first by moving reserved keys to other positions, in any
objects that are read as records. The other keys of an object keep their order. -/
inductive Rearranged : Value → Value → Prop
  | same {v : Value} : Rearranged v v
  | trans {u v w : Value} (first : Rearranged u v) (second : Rearranged v w) : Rearranged u w
  | reserved {members members' : Members} (distinct : (members.map (·.1)).Nodup)
      (perm : members.Perm members') (inOrder : fieldMembers members = fieldMembers members') :
      Rearranged (.object members) (.object members')
  | member {before after : Members} {key : String} {v w : Value}
      (read : isRead (namesQuantifier (before ++ (key, v) :: after)) key = true)
      (inner : Rearranged v w) :
      Rearranged (.object (before ++ (key, v) :: after)) (.object (before ++ (key, w) :: after))

def slotKey (key : String) : Option String := if key ∈ reservedNames then some key else none

inductive Addition where
  | nothing
  | operand (o : Operand)
  | transform (t : Transform)
  | message (text : String)
  | field (name : String) (e : Expectation)

namespace Addition

def addTo : Addition → Record → Record
  | nothing, r => r
  | operand o, r => r.operand o
  | transform t, r => r.transform t
  | message text, r => r.message text
  | field name e, r => r.field name e

def slotKey : Addition → Option String
  | nothing => some "$check"
  | operand _ => some "$value"
  | transform _ => some "$func"
  | message _ => some "$eMessage"
  | field _ _ => none

theorem addTo_comm {a b : Addition} (different : a.slotKey ≠ b.slotKey) (r : Record) :
    a.addTo (b.addTo r) = b.addTo (a.addTo r) := by
  cases a <;> cases b <;> first | rfl | exact absurd rfl different

end Addition

section Reading

variable {path : Path} {r middle next result : Record} {a b : String × Value}
  {members members' before after xs ys zs rest : Members} {key : String} {v w : Value}

theorem MemberRead.exists_addition (read : MemberRead path r a next) :
    ∃ addition : Addition, next = addition.addTo r ∧ addition.slotKey = slotKey a.1 ∧
      ∀ other, isQuantified other = isQuantified r →
        MemberRead path other a (addition.addTo other) := by
  cases read with
  | check => exact ⟨.nothing, rfl, rfl, fun _ _ => .check⟩
  | @value v raw =>
    exact ⟨.operand (.value v), rfl, rfl, fun _ same => .value (same.trans raw)⟩
  | @element v e quantified read =>
    exact ⟨.operand (.predicate (satisfies e)), rfl, rfl,
      fun _ same => .element (same.trans quantified) read⟩
  | @transform v t read => exact ⟨.transform t, rfl, rfl, fun _ _ => .transform read⟩
  | @message text => exact ⟨.message text, rfl, rfl, fun _ _ => .message⟩
  | @field name v e free read =>
    exact ⟨.field name e, rfl, (if_neg free).symm, fun _ _ => .field free read⟩

theorem MemberRead.swap (first : MemberRead path r a middle)
    (second : MemberRead path middle b next) (different : slotKey a.1 ≠ slotKey b.1) :
    ∃ other, MemberRead path r b other ∧ MemberRead path other a next := by
  -- A quantifier's `$value` is read otherwise than a plain one, but no member changes the kind.
  obtain ⟨x, rfl, slotX, readA⟩ := first.exists_addition
  obtain ⟨y, rfl, slotY, readB⟩ := second.exists_addition
  have readB : MemberRead path r b (y.addTo r) := readB r first.isQuantified_eq.symm
  have readA : MemberRead path (y.addTo r) a (x.addTo (y.addTo r)) :=
    readA (y.addTo r) readB.isQuantified_eq
  have different : x.slotKey ≠ y.slotKey := by rwa [slotX, slotY]
  rw [x.addTo_comm different] at readA
  exact ⟨y.addTo r, readB, readA⟩

theorem parseMembers_cons_eq_ok_iff : parseMembers path r (a :: rest) = .ok result ↔
    ∃ next, MemberRead path r a next ∧ parseMembers path next rest = .ok result := by
  constructor
  · exact exists_memberRead
  · rintro ⟨next, first, read⟩
    rw [parseMembers_of_read first, read]

def ReadAlike (xs ys : Members) : Prop :=
  ∀ path r result, parseMembers path r xs = .ok result ↔ parseMembers path r ys = .ok result

theorem ReadAlike.refl (xs : Members) : ReadAlike xs xs := fun _ _ _ => Iff.rfl

theorem ReadAlike.symm (h : ReadAlike xs ys) : ReadAlike ys xs :=
  fun path r result => (h path r result).symm

theorem ReadAlike.trans (first : ReadAlike xs ys) (second : ReadAlike ys zs) : ReadAlike xs zs :=
  fun path r result => (first path r result).trans (second path r result)

theorem ReadAlike.cons (a : String × Value) (h : ReadAlike xs ys) :
    ReadAlike (a :: xs) (a :: ys) := by
  intro path r result
  rw [parseMembers_cons_eq_ok_iff, parseMembers_cons_eq_ok_iff]
  exact exists_congr fun next => and_congr_right fun _ => h path next result

theorem parseMembers_swap (different : slotKey a.1 ≠ slotKey b.1)
    (read : parseMembers path r (a :: b :: rest) = .ok result) :
    parseMembers path r (b :: a :: rest) = .ok result := by
  obtain ⟨middle, first, read⟩ := exists_memberRead read
  obtain ⟨next, second, read⟩ := exists_memberRead read
  obtain ⟨other, second, first⟩ := first.swap second different
  rw [parseMembers_of_read second, parseMembers_of_read first, read]

theorem ReadAlike.swap (different : slotKey a.1 ≠ slotKey b.1) (rest : Members) :
    ReadAlike (a :: b :: rest) (b :: a :: rest) := by
  intro path r result
  constructor
  · exact parseMembers_swap different
  · exact parseMembers_swap different.symm

theorem ReadAlike.past (different : ∀ b ∈ xs, slotKey a.1 ≠ slotKey b.1) (rest : Members) :
    ReadAlike (a :: (xs ++ rest)) (xs ++ a :: rest) := by
  induction xs with
  | nil => exact .refl _
  | cons b xs ih =>
    obtain ⟨head, tail⟩ := List.forall_mem_cons.mp different
    exact (ReadAlike.swap head _).trans (.cons b (ih tail))

theorem mem_reservedNames_of_member (member : a ∈ reservedMembers members) :
    a.1 ∈ reservedNames := by
  simpa using (List.mem_filter.mp member).2

theorem readAlike_partition (members : Members) :
    ReadAlike members (reservedMembers members ++ fieldMembers members) := by
  induction members with
  | nil => exact .refl _
  | cons a rest ih =>
    by_cases reserved : a.1 ∈ reservedNames
    · have parts : reservedMembers (a :: rest) ++ fieldMembers (a :: rest) =
          a :: (reservedMembers rest ++ fieldMembers rest) := by
        simp [reservedMembers, fieldMembers, reserved]
      rw [parts]
      exact .cons a ih
    · have parts : reservedMembers (a :: rest) ++ fieldMembers (a :: rest) =
          reservedMembers rest ++ a :: fieldMembers rest := by
        simp [reservedMembers, fieldMembers, reserved]
      have different : ∀ b ∈ reservedMembers rest, slotKey a.1 ≠ slotKey b.1 := by
        intro b member
        simp [slotKey, reserved, mem_reservedNames_of_member member]
      rw [parts]
      exact (ReadAlike.cons a ih).trans (.past different _)

theorem ReadAlike.of_perm (perm : xs.Perm ys) (reserved : ∀ a ∈ xs, a.1 ∈ reservedNames)
    (distinct : (xs.map (·.1)).Nodup) (rest : Members) : ReadAlike (xs ++ rest) (ys ++ rest) := by
  induction perm with
  | nil => exact .refl _
  | cons a perm ih =>
    obtain ⟨_, reserved⟩ := List.forall_mem_cons.mp reserved
    exact .cons a (ih reserved (List.nodup_cons.mp distinct).2)
  | swap a b xs =>
    have different : slotKey b.1 ≠ slotKey a.1 := by
      have keys : b.1 ≠ a.1 := by
        intro same
        simp [same] at distinct
      have first := reserved b (by simp)
      have second := reserved a (by simp)
      simpa [slotKey, first, second] using keys
    exact .swap different _
  | trans first second ih ih' =>
    have distinct' := (first.map (·.1)).nodup_iff.mp distinct
    exact (ih reserved distinct).trans
      (ih' (fun a member => reserved a (first.mem_iff.mpr member)) distinct')

theorem readAlike_of_moved (distinct : (members.map (·.1)).Nodup) (perm : members.Perm members')
    (inOrder : fieldMembers members = fieldMembers members') : ReadAlike members members' := by
  -- Both lists are sorted into fields and reserved members, and only the latter are permuted.
  have reserved : ∀ a ∈ reservedMembers members, a.1 ∈ reservedNames :=
    fun a => mem_reservedNames_of_member
  have own : ((reservedMembers members).map (·.1)).Nodup :=
    distinct.sublist (List.filter_sublist.map _)
  have slots : (reservedMembers members).Perm (reservedMembers members') := perm.filter _
  have middle := ReadAlike.of_perm slots reserved own (fieldMembers members)
  refine (readAlike_partition members).trans (middle.trans ?_)
  rw [inOrder]
  exact (readAlike_partition members').symm

theorem MemberRead.replace (read : MemberRead path r (key, v) next)
    (asRecord : isRead (isQuantified r) key = true)
    (same : ∀ path e, parseAt path v = .ok e → parseAt path w = .ok e) :
    MemberRead path r (key, w) next := by
  cases read with
  | check => simp [isRead, reservedNames] at asRecord
  | value raw => simp [isRead, reservedNames, raw] at asRecord
  | element quantified read => exact .element quantified (same _ _ read)
  | transform read => simp [isRead, reservedNames] at asRecord
  | message => simp [isRead, reservedNames] at asRecord
  | field free read => exact .field free (same _ _ read)

theorem parseMembers_replace (asRecord : isRead (isQuantified r) key = true)
    (same : ∀ path e, parseAt path v = .ok e → parseAt path w = .ok e)
    (read : parseMembers path r (before ++ (key, v) :: after) = .ok result) :
    parseMembers path r (before ++ (key, w) :: after) = .ok result := by
  induction before generalizing r with
  | nil =>
    obtain ⟨next, first, read⟩ := exists_memberRead read
    exact parseMembers_cons_eq_ok_iff.mpr ⟨next, first.replace asRecord same, read⟩
  | cons a before ih =>
    obtain ⟨next, first, read⟩ := exists_memberRead read
    rw [← first.isQuantified_eq] at asRecord
    exact parseMembers_cons_eq_ok_iff.mpr ⟨next, first, ih asRecord read⟩

theorem start_congr (found : members.lookup "$check" = members'.lookup "$check") :
    start path members = start path members' := by
  rw [start, found, start]

theorem lookup_check_replace {quantified : Bool} (asRecord : isRead quantified key = true) :
    (before ++ (key, v) :: after).lookup "$check" =
      (before ++ (key, w) :: after).lookup "$check" := by
  have different : "$check" ≠ key := by
    rintro rfl
    simp [isRead, reservedNames] at asRecord
  rw [lookup_insert_other different, lookup_insert_other different]

theorem parseAt_object_eq_ok_iff {e : Expectation} : parseAt path (.object members) = .ok e ↔
    ∃ first last, start path members = .ok first ∧ parseMembers path first members = .ok last ∧
      e = last.toExpectation := by
  constructor
  · exact parseAt_object
  · rintro ⟨first, last, started, finished, rfl⟩
    simp [parseAt, started, finished, bind, Except.bind]

theorem parseAt_replace {e : Expectation}
    (asRecord : isRead (namesQuantifier (before ++ (key, v) :: after)) key = true)
    (same : ∀ path e, parseAt path v = .ok e → parseAt path w = .ok e)
    (read : parseAt path (.object (before ++ (key, v) :: after)) = .ok e) :
    parseAt path (.object (before ++ (key, w) :: after)) = .ok e := by
  obtain ⟨first, last, started, finished, rfl⟩ := parseAt_object read
  have kind := (start_eq_ok started).1
  rw [start_congr (lookup_check_replace asRecord)] at started
  rw [← kind] at asRecord
  exact parseAt_object_eq_ok_iff.mpr
    ⟨first, last, started, parseMembers_replace asRecord same finished, rfl⟩

end Reading

theorem Rearranged.parseAt_eq_ok_iff {v w : Value} (h : Rearranged v w) (path : Path)
    (e : Expectation) : parseAt path v = .ok e ↔ parseAt path w = .ok e := by
  induction h generalizing path e with
  | same => exact Iff.rfl
  | trans first second ih ih' => exact (ih path e).trans (ih' path e)
  | reserved distinct perm inOrder =>
    rw [parseAt_object_eq_ok_iff, parseAt_object_eq_ok_iff,
      start_congr (lookup_perm distinct perm)]
    have alike := readAlike_of_moved distinct perm inOrder
    simp only [alike path]
  | @member before after key v w asRecord inner ih =>
    have asRecord' : isRead (namesQuantifier (before ++ (key, w) :: after)) key = true := by
      rwa [namesQuantifier, ← lookup_check_replace asRecord]
    constructor
    · exact parseAt_replace asRecord fun path e => (ih path e).mp
    · exact parseAt_replace asRecord' fun path e => (ih path e).mpr

/-- The positions of the reserved keys are irrelevant. A document is accepted when it is accepted
with its reserved keys at other positions, and both are read as the same tree, so that comparisons
come to the same. -/
theorem reserved_positions_irrelevant {document moved : Value} (h : Rearranged document moved) :
    ((∃ e, parse document = .ok e) ↔ ∃ e, parse moved = .ok e) ∧
      ∀ e e', parse document = .ok e → parse moved = .ok e' →
        e = e' ∧ ∀ actual path, e.compare actual path = e'.compare actual path := by
  have accepted : ∀ e, parse document = .ok e ↔ parse moved = .ok e :=
    h.parseAt_eq_ok_iff .root
  refine ⟨exists_congr accepted, fun e e' read read' => ?_⟩
  have same : e = e' := Except.ok.inj (((accepted e).mp read).symm.trans read')
  exact ⟨same, fun actual path => by rw [same]⟩

def administratorMoved : Value :=
  .object [("role", .object [("$check", .string "equal"), ("$value", .string "admin"),
    ("$func", .string "lowercase")]), ("id", .int 2)]

def rosterMoved : Value :=
  .object [
    ("members", .object [("$check", .string "some"), ("$value", administratorMoved),
      ("$eMessage", .string "no administrator")]),
    ("origin", .object [("$value", .object [("$check", .null)]), ("$check", .string "==")])]

theorem reserved_positions_irrelevant_roster :
    Rearranged roster rosterMoved ∧ ∃ e e', parse roster = .ok e ∧ parse rosterMoved = .ok e' ∧
      ∀ actual path, e.compare actual path = e'.compare actual path := by
  have role : Rearranged
      (.object [("$func", .string "lowercase"), ("$value", .string "admin"),
        ("$check", .string "equal")])
      (.object [("$check", .string "equal"), ("$value", .string "admin"),
        ("$func", .string "lowercase")]) :=
    .reserved (by decide) (List.reverse_perm _).symm rfl
  have element : Rearranged administrator administratorMoved :=
    @Rearranged.member [] _ "role" _ _ rfl role
  have members : Rearranged
      (.object [("$value", administrator), ("$eMessage", .string "no administrator"),
        ("$check", .string "some")])
      (.object [("$check", .string "some"), ("$value", administratorMoved),
        ("$eMessage", .string "no administrator")]) :=
    .trans (@Rearranged.member [] _ "$value" _ _ rfl element)
      (.reserved (by decide) (@List.perm_append_comm _ [_, _] [_]) rfl)
  have origin : Rearranged
      (.object [("$check", .string "=="), ("$value", .object [("$check", .null)])])
      (.object [("$value", .object [("$check", .null)]), ("$check", .string "==")]) :=
    .reserved (by decide) (.swap _ _ _) rfl
  have moved : Rearranged roster rosterMoved :=
    .trans (@Rearranged.member [] _ "members" _ _ rfl members)
      (@Rearranged.member [_] [] "origin" _ _ rfl origin)
  obtain ⟨e, read⟩ : ∃ e, parse roster = .ok e := ⟨_, rfl⟩
  obtain ⟨accepted, alike⟩ := reserved_positions_irrelevant moved
  obtain ⟨e', read'⟩ := accepted.mp ⟨e, read⟩
  exact ⟨moved, e, e', read, read', (alike e e' read read').2⟩

end DataMatch.Document
