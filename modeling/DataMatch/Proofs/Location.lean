import DataMatch.Proofs.Decision
import DataMatch.Proofs.PositionText
import DataMatch.Proofs.Reach

/-! Where a comparison stops. The path after a comparison that passes is the path before it; after a
failure it is the path of the node at fault, and leads through the data to what the error is
about. -/
namespace DataMatch

section FirstFailure

variable {fault wider : Option Value → Expectation → Path → CheckError → Prop}
  {actual : Option Value} {e : Expectation} {path : Path} {f : Failure}

theorem FirstFailure.location_extends (h : FirstFailure fault actual e path f) :
    path.segments <+: f.location.segments := by
  induction h with
  | here h => exact List.prefix_rfl
  | field passed below ih => exact (List.prefix_append _ _).trans ih
  | position integers passed below ih => exact (List.prefix_append _ _).trans ih
  | item kind passed below ih => exact (List.prefix_append _ _).trans ih

theorem FirstFailure.mono
    (included : ∀ actual e path err, fault actual e path err → wider actual e path err)
    (h : FirstFailure fault actual e path f) : FirstFailure wider actual e path f := by
  induction h with
  | here h => exact .here (included _ _ _ _ h)
  | field passed below ih => exact .field passed ih
  | position integers passed below ih => exact .position integers passed ih
  | item kind passed below ih => exact .item kind passed ih

theorem FirstFailure.fault_or_predicate (h : FirstFailure Ends actual e path f) :
    FirstFailure Fault actual e path f ∨ FirstFailure PredicateFault actual e path f := by
  induction h with
  | here h => exact h.imp .here .here
  | field passed below ih => exact ih.imp (.field passed) (.field passed)
  | position integers passed below ih =>
    exact ih.imp (.position integers passed) (.position integers passed)
  | item kind passed below ih => exact ih.imp (.item kind passed) (.item kind passed)

theorem FirstFailure.exists_node (h : FirstFailure fault actual e path f) :
    ∃ found node, fault found node f.location f.error := by
  induction h with
  | here h => exact ⟨_, _, h⟩
  | field passed below ih => exact ih
  | position integers passed below ih => exact ih
  | item kind passed below ih => exact ih

theorem Fault.error_path {err : CheckError} (h : Fault actual e path err) :
    err.path = path.text := by
  cases h <;> rfl

theorem FirstFailure.error_path (h : FirstFailure Fault actual e path f) :
    f.error.path = f.location.text := by
  obtain ⟨found, node, own⟩ := h.exists_node
  exact own.error_path

end FirstFailure

theorem run_eq_error_iff {e : Expectation} {actual : Option Value} {path after : Path}
    {err : CheckError} : (e.walk actual).run path = .error err after ↔
      e.compare actual path = .error ⟨after, err⟩ := by
  rw [walk_run_eq]
  cases e.compare actual path with
  | ok u => simp
  | error f =>
    cases f
    simp [and_comm]

/-- Path discipline. A comparison that passes leaves the path as it was. One that fails has only
gone further down, and its error names the place where it stopped, unless the test of a quantifier
gave the error: that error is passed on as it is, and the path is that of the quantified array. -/
theorem path_after_walk (actual : Option Value) (e : Expectation) (path : Path) :
    (match (e.walk actual).run path with
      | .ok () after => after = path
      | .error err after => path.segments <+: after.segments ∧
          (err.path = after.text ∨ FirstFailure PredicateFault actual e path ⟨after, err⟩)) ∧
      ∀ f, FirstFailure PredicateFault actual e path f →
        (e.walk actual).run path = .error f.error f.location := by
  refine ⟨?_, fun f h => ?_⟩
  · cases outcome : e.compare actual path with
    | ok u =>
      rw [walk_run_eq, outcome]
    | error f =>
      rw [walk_run_eq, outcome]
      have first := compare_eq_error_iff.mp outcome
      refine ⟨first.location_extends, ?_⟩
      rcases first.fault_or_predicate with own | predicate
      · exact .inl own.error_path
      · exact .inr predicate
  · have first : FirstFailure Ends actual e path f := h.mono fun _ _ _ _ fault => .inr fault
    exact run_eq_error_iff.mpr first.compare_eq

def refuseNull : Predicate
  | .null => .error ⟨.configuration, "elsewhere", "no null here"⟩
  | _ => .ok true

def testedTags : Expectation :=
  .record .none [("groups", .record { Slots.none with check := some "forEach" }
    [("tags", .record ⟨some "every", some (.predicate refuseNull), none, none⟩ [])])]

def taggedGroups : Value :=
  .object [("groups", .array [.object [("tags", .array [])],
    .object [("tags", .array [.bool true, .null])]])]

theorem path_after_walk_taggedGroups :
    FirstFailure PredicateFault (some taggedGroups) testedTags .root
        ⟨⟨["groups", "1", "tags"]⟩, ⟨.configuration, "elsewhere", "no null here"⟩⟩ ∧
      (testedTags.walk (some taggedGroups)).run .root =
        .error ⟨.configuration, "elsewhere", "no null here"⟩ ⟨["groups", "1", "tags"]⟩ := by
  have first : FirstFailure PredicateFault (some taggedGroups) testedTags .root
      ⟨⟨["groups", "1", "tags"]⟩, ⟨.configuration, "elsewhere", "no null here"⟩⟩ := by
    refine @FirstFailure.field _ _ [] [] "groups" _ _ _ nofun ?_
    refine @FirstFailure.item _ [.object [("tags", .array [])]] []
      (.object [("tags", .array [.bool true, .null])]) _ _ _ _ rfl ?_ ?_
    · refine List.forall_mem_singleton.mpr (.object (List.forall_mem_singleton.mpr ?_))
      exact .quantified rfl rfl nofun
    · refine @FirstFailure.field _ _ [] [] "tags" _ _ _ nofun ?_
      exact .here (.aborted rfl rfl ⟨[.bool true], .null, [], rfl, by simp [refuseNull], rfl⟩)
  exact ⟨first, (path_after_walk _ _ _).2 _ first⟩

/-- The segments lead to what an error of this kind is about: a present value, or for a missing one
a present value from which the last step finds nothing. -/
def Truthful (v : Value) (segments : List String) : ErrorKind → Prop
  | .notFound => ∃ above last parent, segments = above ++ [last] ∧
      v.reach? above = some parent ∧ parent.part? last = none
  | .configuration | .assertion => ∃ found, v.reach? segments = some found

theorem Truthful.step {v w : Value} {segment : String} {segments : List String} {kind : ErrorKind}
    (leads : v.part? segment = some w) (h : Truthful w segments kind) :
    Truthful v (segment :: segments) kind := by
  have onwards : ∀ rest, v.reach? (segment :: rest) = w.reach? rest := by
    intro rest
    rw [Value.reach?, leads, Option.bind_some]
  cases kind with
  | notFound =>
    obtain ⟨above, last, parent, rfl, reached, nothing⟩ := h
    exact ⟨segment :: above, last, parent, rfl, (onwards above).trans reached, nothing⟩
  | configuration =>
    obtain ⟨found, reached⟩ := h
    exact ⟨found, (onwards segments).trans reached⟩
  | assertion =>
    obtain ⟨found, reached⟩ := h
    exact ⟨found, (onwards segments).trans reached⟩

def LocatedBelow (v : Value) (path : Path) (f : Failure) : Prop :=
  ∃ segments, f.location.segments = path.segments ++ segments ∧ Truthful v segments f.error.kind

theorem LocatedBelow.step {v : Value} {segment : String} {child : Expectation} {path : Path}
    {f : Failure} (below : FirstFailure Fault (v.part? segment) child (path.push segment) f)
    (located : ∀ w, v.part? segment = some w → LocatedBelow w (path.push segment) f) :
    LocatedBelow v path f := by
  cases leads : v.part? segment with
  | none =>
    rw [leads] at below
    cases below with
    | here h =>
      cases h
      exact ⟨[segment], rfl, [], segment, v, rfl, rfl, leads⟩
  | some w =>
    obtain ⟨segments, location, truthful⟩ := located w leads
    refine ⟨segment :: segments, ?_, truthful.step leads⟩
    rw [location, Path.segments_push, List.append_assoc, List.singleton_append]

theorem FirstFailure.located {actual : Option Value} {e : Expectation} {path : Path} {f : Failure}
    (h : FirstFailure Fault actual e path f) :
    ∀ v, actual = some v → v.Addressable → LocatedBelow v path f := by
  -- The value is not fixed: below a step it is the part that the segment leads to.
  induction h with
  | here h =>
    rintro v rfl _
    refine ⟨[], (List.append_nil _).symm, ?_⟩
    cases h with
    | misused h => exact ⟨v, rfl⟩
    | differs h => exact ⟨v, rfl⟩
  | field passed below ih =>
    rintro v same addressable
    cases same
    exact .step below fun w leads => ih w leads (addressable.part leads)
  | position integers passed below ih =>
    rintro v same addressable
    cases same
    exact .step below fun w leads => ih w leads (addressable.part leads)
  | @item before after item s fields path f kind passed below ih =>
    rintro v same addressable
    cases same
    -- An item is walked under its printed position, which has to be read back.
    have found : (before ++ item :: after)[before.length]? = some item := by simp
    have leads :
        (Value.array (before ++ item :: after)).part? (toString before.length) = some item :=
      position_leads (Nat.le_of_lt addressable.length_lt) found
    rw [← leads] at below
    refine .step below fun w same => ih w (leads.symm.trans same) (addressable.part same)

/-- Reported locations are truthful: unless the test of a quantifier gave the error, the segments
that a failed comparison leaves lead from the data to what the error is about. -/
theorem location_truthful {v : Value} {e : Expectation} {err : CheckError} {after : Path}
    (addressable : v.Addressable) (failed : (e.walk (some v)).run .root = .error err after) :
    FirstFailure PredicateFault (some v) e .root ⟨after, err⟩ ∨
      Truthful v after.segments err.kind := by
  have first := compare_eq_error_iff.mp (run_eq_error_iff.mp failed)
  rcases first.fault_or_predicate with fault | predicate
  · obtain ⟨segments, location, truthful⟩ := fault.located v rfl addressable
    have same : after.segments = segments := location
    rw [same]
    exact .inr truthful
  · exact .inl predicate

def textRows : Value :=
  .object [("page.rows", .array [.array [.string "a"], .array [.string "b"]])]

def rowsEndWithA : Expectation :=
  .record .none [("page.rows", .record { Slots.none with check := some "forEach" }
    [(" -1", .literal (.string "a"))])]

theorem location_truthful_textRows :
    textRows.Addressable ∧
      (rowsEndWithA.walk (some textRows)).run .root =
        .error (.assertion ⟨["page.rows", "1", " -1"]⟩ "Incorrect \"page.rows.1. -1\".")
          ⟨["page.rows", "1", " -1"]⟩ ∧
      (FirstFailure PredicateFault (some textRows) rowsEndWithA .root
          ⟨⟨["page.rows", "1", " -1"]⟩,
            .assertion ⟨["page.rows", "1", " -1"]⟩ "Incorrect \"page.rows.1. -1\"."⟩ ∨
        Truthful textRows ["page.rows", "1", " -1"] .assertion) := by
  have row (s : String) : (Value.array [.string s]).Addressable :=
    .array (show 1 < Nat.pow 2 63 by decide) (by simpa using .primitive rfl)
  have rows : (Value.array [.array [.string "a"], .array [.string "b"]]).Addressable :=
    .array (show 2 < Nat.pow 2 63 by decide) (by simpa using ⟨row "a", row "b"⟩)
  have addressable : textRows.Addressable := .object (by simpa using rows)
  have failed : (rowsEndWithA.walk (some textRows)).run .root =
      .error (.assertion ⟨["page.rows", "1", " -1"]⟩ "Incorrect \"page.rows.1. -1\".")
        ⟨["page.rows", "1", " -1"]⟩ := rfl
  exact ⟨addressable, failed, location_truthful addressable failed⟩

end DataMatch
