import DataMatch.Proofs.Projection

/-! What reading a document does to the record under construction, one member at a time, and the
objects of a document that are read in this way. -/
namespace DataMatch

namespace Document

inductive MemberRead (path : Path) (r : Record) : String × Value → Record → Prop
  | check {v : Value} : MemberRead path r ("$check", v) r
  | value {v : Value} (raw : isQuantified r = false) :
      MemberRead path r ("$value", v) (r.operand (.value v))
  | element {v : Value} {e : Expectation} (quantified : isQuantified r = true)
      (read : parseAt path v = .ok e) :
      MemberRead path r ("$value", v) (r.operand (.predicate (satisfies e)))
  | transform {v : Value} {t : Transform} (read : expectTransform path v = .ok t) :
      MemberRead path r ("$func", v) (r.transform t)
  | message {text : String} : MemberRead path r ("$eMessage", .string text) (r.message text)
  | field {name : String} {v : Value} {e : Expectation} (free : name ∉ reservedNames)
      (read : parseAt (path.push name) v = .ok e) : MemberRead path r (name, v) (r.field name e)

section Items

variable {e : Expectation} {item : Value} {err : CheckError}

theorem satisfies_of_ok (passed : check item e = .ok ()) : satisfies e item = .ok true := by
  rw [satisfies, passed]

theorem satisfies_of_error (failed : check item e = .error err) :
    satisfies e item = if err.kind = .configuration then .error err else .ok false := by
  rw [satisfies, failed]
  cases h : err.kind <;> simp [h]

end Items

section Members

variable {path : Path} {r result : Record} {members : Members}

theorem expectText_eq_ok {key text : String} {v : Value} (h : expectText path key v = .ok text) :
    v = .string text := by
  unfold expectText at h
  split at h
  · cases h
    rfl
  · contradiction

theorem expectTransform_eq_ok_iff {v : Value} {t : Transform} :
    expectTransform path v = .ok t ↔ ∃ name, v = .string name ∧ Transform.named? name = some t := by
  constructor
  · intro read
    obtain ⟨name, text, named⟩ := bind_eq_ok read
    refine ⟨name, expectText_eq_ok text, ?_⟩
    split at named
    · rename_i found
      rw [found, Except.ok.inj named]
    · contradiction
  · rintro ⟨name, rfl, named⟩
    simp [expectTransform, expectText, named, bind, Except.bind]

theorem exists_memberRead {key : String} {v : Value} {rest : Members}
    (read : parseMembers path r ((key, v) :: rest) = .ok result) :
    ∃ next, MemberRead path r (key, v) next ∧ parseMembers path next rest = .ok result := by
  by_cases reserved : key ∈ reservedNames
  · simp only [reservedNames, List.mem_cons, List.not_mem_nil, or_false] at reserved
    rcases reserved with rfl | rfl | rfl | rfl
    · exact ⟨r, .check, read⟩
    · rw [parseMembers] at read
      dsimp only at read
      split at read
      · rename_i quantified
        obtain ⟨operand, parsed, rest⟩ := bind_eq_ok read
        obtain ⟨e, child, rfl⟩ := map_eq_ok parsed
        exact ⟨_, .element quantified child, rest⟩
      · rename_i raw
        exact ⟨_, .value (by simpa using raw), read⟩
    · obtain ⟨t, read, rest⟩ := bind_eq_ok read
      exact ⟨r.transform t, .transform read, rest⟩
    · obtain ⟨text, read, rest⟩ := bind_eq_ok read
      obtain rfl := expectText_eq_ok read
      exact ⟨r.message text, .message, rest⟩
  · rw [parseMembers_cons reserved] at read
    obtain ⟨e, child, rest⟩ := bind_eq_ok read
    exact ⟨r.field key e, .field reserved child, rest⟩

theorem parseMembers_of_read {member : String × Value} {next : Record}
    (read : MemberRead path r member next) (rest : Members) :
    parseMembers path r (member :: rest) = parseMembers path next rest := by
  cases read with
  | check => rfl
  | value raw => simp [parseMembers, raw, bind, Except.bind]
  | element quantified read => simp [parseMembers, quantified, read, bind, Except.bind, Except.map]
  | transform read => simp [parseMembers, read, bind, Except.bind]
  | message => rfl
  | field free read =>
    rw [parseMembers_cons free, read]
    rfl

theorem parseMembers_traces (Kept : Members → Record → Prop)
    (step : ∀ seen member rest r next, members = seen ++ member :: rest →
      MemberRead path r member next → Kept seen r → Kept (seen ++ [member]) next)
    (start : Kept [] r) (read : parseMembers path r members = .ok result) :
    Kept members result := by
  -- The members that are read already are put in front, so that the rest can be induced on.
  suffices onwards : ∀ rest seen r, members = seen ++ rest → Kept seen r →
      parseMembers path r rest = .ok result → Kept members result from
    onwards members [] r rfl start read
  intro rest
  induction rest with
  | nil =>
    intro seen r split kept read
    cases read
    rw [split, List.append_nil]
    exact kept
  | cons member rest ih =>
    intro seen r split kept read
    obtain ⟨next, first, read⟩ := exists_memberRead read
    have kept := step seen member rest r next split first kept
    exact ih (seen ++ [member]) next (by simp [split]) kept read

theorem parseMembers_keeps (Kept : Record → Prop)
    (step : ∀ member ∈ members, ∀ r next, MemberRead path r member next → Kept r → Kept next)
    (start : Kept r) (read : parseMembers path r members = .ok result) : Kept result := by
  refine parseMembers_traces (fun _ => Kept) ?_ start read
  intro seen member rest r next split
  exact step member (by simp [split]) r next

theorem MemberRead.relocate {member : String × Value} {next : Record}
    (read : MemberRead path r member next) (other : Path)
    (below : ∀ path e, parseAt path member.2 = .ok e → ∀ other, parseAt other member.2 = .ok e) :
    MemberRead other r member next := by
  cases read with
  | check => exact .check
  | value raw => exact .value raw
  | element quantified read => exact .element quantified (below _ _ read other)
  | transform read =>
    have known := expectTransform_eq_ok_iff.mp read
    exact .transform (expectTransform_eq_ok_iff.mpr known)
  | message => exact .message
  | field free read => exact .field free (below _ _ read (other.push _))

def namesQuantifier (members : Members) : Bool :=
  match members.lookup "$check" with
  | some (.string name) =>
    match CheckKind.named? name with
    | some (.quantify _) => true
    | _ => false
  | _ => false

/-- Whether the value of a member is read as an expectation: that of a field, and `$value` beside a
quantifier. -/
def isRead (quantified : Bool) (key : String) : Bool :=
  key ∉ reservedNames || (quantified && key == "$value")

theorem MemberRead.isQuantified_eq {member : String × Value} {next : Record}
    (read : MemberRead path r member next) : isQuantified next = isQuantified r := by
  cases read <;> rfl

theorem start_eq_ok_iff : start path members = .ok r ↔ ∃ check : Option String,
    members.lookup "$check" = check.map .string ∧
      r = ⟨{ Slots.none with check := check }, []⟩ := by
  unfold start
  constructor
  · intro started
    split at started
    · rename_i absent
      cases started
      exact ⟨none, absent, rfl⟩
    · rename_i v found
      obtain ⟨name, text, rfl⟩ := map_eq_ok started
      rw [expectText_eq_ok text] at found
      exact ⟨some name, found, rfl⟩
  · rintro ⟨check, found, rfl⟩
    rw [found]
    cases check <;> rfl

theorem start_eq_ok (started : start path members = .ok r) :
    isQuantified r = namesQuantifier members ∧ r.fields = [] ∧
      r.slots = { Slots.none with check := r.slots.check } := by
  obtain ⟨check, found, rfl⟩ := start_eq_ok_iff.mp started
  refine ⟨?_, rfl, rfl⟩
  unfold namesQuantifier
  rw [found]
  cases check <;> rfl

theorem parseAt_of_primitive {v : Value} (shape : v.isObject = false) (path : Path) :
    parseAt path v = .ok (.literal v) := by
  cases v with
  | object members => contradiction
  | _ => rfl

theorem parseAt_primitive {v : Value} {e : Expectation} (shape : v.isObject = false)
    (read : parseAt path v = .ok e) : e = .literal v := by
  rw [parseAt_of_primitive shape] at read
  exact (Except.ok.inj read).symm

theorem parseAt_object {e : Expectation}
    (read : parseAt path (.object members) = .ok e) : ∃ first last,
      start path members = .ok first ∧ parseMembers path first members = .ok last ∧
        e = last.toExpectation := by
  rw [parseAt] at read
  obtain ⟨first, started, read⟩ := bind_eq_ok read
  obtain ⟨last, finished, same⟩ := bind_eq_ok read
  cases same
  exact ⟨first, last, started, finished, rfl⟩

theorem parseMembers_relocate (read : parseMembers path r members = .ok result) (other : Path)
    (below : ∀ member ∈ members, ∀ path e, parseAt path member.2 = .ok e →
      ∀ other, parseAt other member.2 = .ok e) :
    parseMembers other r members = .ok result := by
  induction members generalizing r with
  | nil => exact read
  | cons member rest ih =>
    obtain ⟨head, tail⟩ := List.forall_mem_cons.mp below
    obtain ⟨next, first, read⟩ := exists_memberRead read
    rw [parseMembers_of_read (first.relocate other head)]
    exact ih read tail

/-- The path is for error reports: a document that can be read is the same expectation anywhere. -/
theorem parseAt_relocate {v : Value} {e : Expectation} (read : parseAt path v = .ok e)
    (other : Path) : parseAt other v = .ok e := by
  induction v generalizing path e other with
  | primitive v h =>
    have shape := Value.isObject_of_primitive h
    rw [parseAt_primitive shape read, parseAt_of_primitive shape]
  | array items ih => exact read
  | object members ih =>
    obtain ⟨first, last, started, finished, rfl⟩ := parseAt_object read
    have below : ∀ member ∈ members, ∀ path e, parseAt path member.2 = .ok e →
        ∀ other, parseAt other member.2 = .ok e :=
      fun member inside path e read other => ih member inside read other
    rw [parseAt, start_eq_ok_iff.mpr (start_eq_ok_iff.mp started)]
    simp [bind, Except.bind, parseMembers_relocate finished other below]

section Free

variable {before after : Members} {v : Value}

theorem parseMembers_of_free (free : ∀ member ∈ members, member.1 ∉ reservedNames) (r : Record) :
    parseMembers path r members =
      (parseMembers path .new members).map fun read =>
        { r with fields := r.fields ++ read.fields } := by
  induction members generalizing r with
  | nil => simp [parseMembers, Except.map, Record.new]
  | cons member rest ih =>
    obtain ⟨key, v⟩ := member
    obtain ⟨first, rest⟩ := List.forall_mem_cons.mp free
    rw [parseMembers_cons first, parseMembers_cons first]
    cases parseAt (path.push key) v with
    | error e => rfl
    | ok e =>
      -- The record that is begun here has the first field already, so both sides are shifted.
      change parseMembers path (r.field key e) _ =
        (parseMembers path (Record.new.field key e) _).map _
      rw [ih rest (r.field key e), ih rest (Record.new.field key e)]
      cases parseMembers path .new _ with
      | error e => rfl
      | ok read => simp [Except.map, Record.field, Record.new]

theorem parseMembers_skip_check (free : ∀ member ∈ before, member.1 ∉ reservedNames) (r : Record) :
    parseMembers path r (before ++ ("$check", v) :: after) =
      parseMembers path r (before ++ after) := by
  induction before generalizing r with
  | nil => rfl
  | cons member rest ih =>
    obtain ⟨key, w⟩ := member
    obtain ⟨first, rest⟩ := List.forall_mem_cons.mp free
    rw [List.cons_append, List.cons_append, parseMembers_cons first, parseMembers_cons first]
    simp only [ih rest]

theorem lookup_check_of_free (free : ∀ member ∈ before, member.1 ∉ reservedNames) :
    before.lookup "$check" = none := by
  apply lookup_eq_none_of_fresh
  intro inside
  obtain ⟨member, inside, same⟩ := List.mem_map.mp inside
  exact free member inside (same ▸ by decide)

theorem parseAt_of_free (free : ∀ member ∈ members, member.1 ∉ reservedNames) {e : Expectation}
    (read : parseAt path (.object members) = .ok e) :
    ∃ fields, parseMembers path .new members = .ok ⟨.none, fields⟩ ∧ e = .record .none fields := by
  obtain ⟨first, last, started, finished, rfl⟩ := parseAt_object read
  rw [start, lookup_check_of_free free] at started
  cases started
  obtain ⟨read, parsed, same⟩ := map_eq_ok ((parseMembers_of_free free .new).symm.trans finished)
  subst same
  exact ⟨_, finished, rfl⟩

theorem parseAt_with_check {name : String} {fields : Fields}
    (free : ∀ member ∈ before ++ after, member.1 ∉ reservedNames)
    (read : parseMembers path .new (before ++ after) = .ok ⟨.none, fields⟩) :
    parseAt path (.object (before ++ ("$check", .string name) :: after)) =
      .ok (.record { Slots.none with check := some name } fields) := by
  have freeBefore : ∀ member ∈ before, member.1 ∉ reservedNames :=
    fun member inside => free member (List.mem_append_left _ inside)
  have found : (before ++ ("$check", Value.string name) :: after).lookup "$check" =
      some (.string name) := by
    simp [List.lookup_append, lookup_check_of_free freeBefore]
  rw [parseAt, start_eq_ok_iff.mpr ⟨some name, found, rfl⟩]
  change (parseMembers path _ _).bind _ = _
  rw [parseMembers_skip_check freeBefore, parseMembers_of_free free, read]
  rfl

end Free

end Members

mutual

def readObjects (document : Value) : List Members :=
  match document with
  | .object members => members :: memberObjects (namesQuantifier members) members
  | _ => []
termination_by structural document

def memberObjects (quantified : Bool) (members : List (String × Value)) : List Members :=
  match members with
  | [] => []
  | (key, v) :: rest =>
    (if isRead quantified key then readObjects v else []) ++ memberObjects quantified rest
termination_by structural members

end

theorem mem_memberObjects {quantified : Bool} {key : String} {v : Value} {members o : Members}
    (member : (key, v) ∈ members) (read : isRead quantified key = true)
    (inside : o ∈ readObjects v) : o ∈ memberObjects quantified members := by
  induction members with
  | nil => contradiction
  | cons first rest ih =>
    obtain ⟨k, w⟩ := first
    rw [memberObjects, List.mem_append]
    rcases List.mem_cons.mp member with same | later
    · cases same
      rw [if_pos read]
      exact .inl inside
    · exact .inr (ih later)

end Document

end DataMatch
