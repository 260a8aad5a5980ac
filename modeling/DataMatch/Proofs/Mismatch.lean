import DataMatch.Proofs.Decision
import DataMatch.Proofs.Projection

/-! A projection with one leaf replaced. Everything that is visited before the leaf still matches,
so the comparison goes down to the leaf and reports the keys as the template writes them. -/
namespace DataMatch

/-- The second template is the first one with a single literal leaf replaced; the keys lead from the
root to that leaf. -/
inductive LeafReplaced (leaf other : Value) : List String → Expectation → Expectation → Prop
  | here : LeafReplaced leaf other [] (.literal leaf) (.literal other)
  | within {s : Slots} {before after : Fields} {key : String} {keys : List String}
      {child changed : Expectation} (inner : LeafReplaced leaf other keys child changed) :
      LeafReplaced leaf other (key :: keys) (.record s (before ++ (key, child) :: after))
        (.record s (before ++ (key, changed) :: after))

section Projection

variable {v leaf : Value} {s : Slots} {fields : Fields}

theorem Projection.of_literal (h : Projection v (.literal leaf)) :
    v = leaf ∧ v.isContainer = false := by
  cases h with
  | primitive h => exact ⟨rfl, h⟩

theorem Projection.of_record (h : Projection v (.record s fields)) :
    s = .none ∧ v.isContainer = true ∧
      ∀ field ∈ fields, ∃ part, NamesPart v field.1 part ∧ Projection part field.2 := by
  cases h with
  | container h named each =>
    refine ⟨rfl, h, ?_⟩
    intro field member
    obtain ⟨p, picked, rfl⟩ := List.mem_map.mp member
    exact ⟨p.part, named p picked, each p picked⟩

end Projection

section Descent

variable {fault : Option Value → Expectation → Path → CheckError → Prop} {v : Value}
  {before after : Fields} {key : String} {child : Expectation} {path : Path} {f : Failure}

theorem FirstFailure.of_part (container : v.isContainer = true)
    (leads : ∀ name ∈ (before ++ (key, child) :: after).map (·.1), (v.part? name).isSome = true)
    (passed : ∀ field ∈ before, Matches (v.part? field.1) field.2)
    (below : FirstFailure fault (v.part? key) child (path.push key) f) :
    FirstFailure fault (some v) (.record .none (before ++ (key, child) :: after)) path f := by
  cases v with
  | object members => exact .field passed below
  | array items =>
    refine .position ?_ passed below
    intro field member
    obtain ⟨part, found⟩ := Option.isSome_iff_exists.mp (leads field.1 (List.mem_map_of_mem member))
    obtain ⟨index, parsed, _⟩ := Option.bind_eq_some_iff.mp found
    exact Option.isSome_of_eq_some parsed
  | _ => contradiction

end Descent

def leafFailure (path : Path) (keys : List String) : Failure :=
  let location : Path := ⟨path.segments ++ keys⟩
  ⟨location, .assertion location ("Incorrect \"" ++ location.text ++ "\".")⟩

theorem leafFailure_push (path : Path) (key : String) (keys : List String) :
    leafFailure (path.push key) keys = leafFailure path (key :: keys) := by
  simp [leafFailure, List.append_assoc]

theorem LeafReplaced.firstFailure {v leaf other : Value} {keys : List String}
    {t changed : Expectation} (replaced : LeafReplaced leaf other keys t changed)
    (addressable : v.Addressable) (projection : Projection v t)
    (unequal : leaf.looseEq other = false) (path : Path) :
    FirstFailure Ends (some v) changed path (leafFailure path keys) := by
  induction replaced generalizing v path with
  | here =>
    obtain ⟨rfl, primitive⟩ := projection.of_literal
    have fault : Fault (some v) (.literal other) path
        (.assertion path ("Incorrect \"" ++ path.text ++ "\".")) :=
      .differs (.literal primitive unequal)
    have root : leafFailure path [] =
        ⟨path, .assertion path ("Incorrect \"" ++ path.text ++ "\".")⟩ := by
      simp [leafFailure]
    rw [root]
    exact .here (.inl fault)
  | @within s before after key keys child changed inner ih =>
    obtain ⟨rfl, container, parts⟩ := projection.of_record
    have leads : ∀ field ∈ before ++ (key, child) :: after,
        ∃ part, v.part? field.1 = some part ∧ Projection part field.2 := by
      intro field member
      obtain ⟨part, named, below⟩ := parts field member
      exact ⟨part, named.leads addressable, below⟩
    -- Replacing a leaf does not touch the keys, so they lead to the same parts as before.
    have names : (before ++ (key, changed) :: after).map (·.1) =
        (before ++ (key, child) :: after).map (·.1) := by simp
    refine .of_part container ?_ ?_ ?_
    · rw [names]
      intro name member
      obtain ⟨field, listed, rfl⟩ := List.mem_map.mp member
      obtain ⟨part, found, _⟩ := leads field listed
      exact Option.isSome_of_eq_some found
    · intro field member
      obtain ⟨part, found, below⟩ := leads field (List.mem_append_left _ member)
      rw [found]
      exact below.matches (addressable.part found)
    · obtain ⟨part, found, below⟩ := leads (key, child) (by simp)
      rw [found, ← leafFailure_push]
      exact ih (addressable.part found) below (path.push key)

/-- A template that repeats parts of a value except for one literal leaf, which differs from what
the value has there, fails at that leaf: with the keys from the root to it as they are written. -/
theorem check_single_mismatch {v leaf other : Value} {keys : List String} {t changed : Expectation}
    (addressable : v.Addressable) (projection : Projection v t)
    (replaced : LeafReplaced leaf other keys t changed) (unequal : leaf.looseEq other = false) :
    check v changed = .error ⟨.assertion, ".".intercalate keys,
      "Incorrect \"" ++ ".".intercalate keys ++ "\"."⟩ := by
  have first := replaced.firstFailure addressable projection unequal .root
  rw [check, first.compare_eq]
  rfl

def pairs : Value :=
  .object [("open", .bool true), ("a.b", .array [.null, .object [("k", .int 5)]])]

def lastOfPair (leaf : Value) : Expectation :=
  .record .none ([("open", .literal (.bool true))] ++
    ("a.b", .record .none ([] ++ ("-1", .record .none ([] ++ ("k", .literal leaf) :: [])) :: [])) ::
      [])

theorem lastOfPair_projection : Projection pairs (lastOfPair (.int 5)) := by
  have leaf : Projection (.object [("k", .int 5)]) (.record .none [("k", .literal (.int 5))]) := by
    refine @Projection.container _ [⟨"k", .int 5, .literal (.int 5)⟩] rfl ?_ ?_
    · exact List.forall_mem_singleton.mpr (.member rfl)
    · exact List.forall_mem_singleton.mpr (.primitive rfl)
  have pair : Projection (.array [.null, .object [("k", .int 5)]])
      (.record .none [("-1", .record .none [("k", .literal (.int 5))])]) := by
    refine @Projection.container _ [⟨"-1", .object [("k", .int 5)],
      .record .none [("k", .literal (.int 5))]⟩] rfl ?_ ?_
    · exact List.forall_mem_singleton.mpr (@NamesPart.fromEnd _ 1 _ rfl)
    · exact List.forall_mem_singleton.mpr leaf
  refine @Projection.container _ [⟨"open", .bool true, .literal (.bool true)⟩,
    ⟨"a.b", .array [.null, .object [("k", .int 5)]],
      .record .none [("-1", .record .none [("k", .literal (.int 5))])]⟩] rfl ?_ ?_
  · exact List.forall_mem_cons.mpr ⟨.member rfl, List.forall_mem_singleton.mpr (.member rfl)⟩
  · exact List.forall_mem_cons.mpr ⟨.primitive rfl, List.forall_mem_singleton.mpr pair⟩

theorem check_single_mismatch_lastOfPair :
    pairs.Addressable ∧ Projection pairs (lastOfPair (.int 5)) ∧
      LeafReplaced (.int 5) (.string "6") ["a.b", "-1", "k"] (lastOfPair (.int 5))
        (lastOfPair (.string "6")) ∧
      (Value.int 5).looseEq (.string "6") = false ∧
      check pairs (lastOfPair (.string "6")) =
        .error ⟨.assertion, "a.b.-1.k", "Incorrect \"a.b.-1.k\"."⟩ := by
  have pair : (Value.array [.null, .object [("k", .int 5)]]).Addressable := by
    refine .array (show 2 < Nat.pow 2 63 by decide) ?_
    simpa using ⟨.primitive rfl, .object (by simpa using .primitive rfl)⟩
  have addressable : pairs.Addressable := .object (by simpa using ⟨.primitive rfl, pair⟩)
  have replaced : LeafReplaced (.int 5) (.string "6") ["a.b", "-1", "k"] (lastOfPair (.int 5))
      (lastOfPair (.string "6")) := .within (.within (.within .here))
  have unequal : (Value.int 5).looseEq (.string "6") = false := by decide +kernel
  exact ⟨addressable, lastOfPair_projection, replaced, unequal,
    check_single_mismatch addressable lastOfPair_projection replaced unequal⟩

end DataMatch
