import DataMatch.Proofs.Location

/-! A comparison that is begun elsewhere. The path says where a comparison is and decides nothing:
from another path the same parts are compared, and a failure lies at the same segments below that
path, for the same cause. -/
namespace DataMatch

inductive SameCause (path other : Path) : CheckError → CheckError → Prop
  | missing : SameCause path other (.missing path) (.missing other)
  | misuse (m : Misuse) : SameCause path other (.misuse path m) (.misuse other m)
  | incorrect : SameCause path other (.assertion path s!"Incorrect \"{path}\".")
      (.assertion other s!"Incorrect \"{other}\".")
  | worded (message : String) :
      SameCause path other (.assertion path message) (.assertion other message)
  | passedOn (err : CheckError) : SameCause path other err err

theorem SameCause.kind {path other : Path} {err err' : CheckError}
    (h : SameCause path other err err') : err.kind = err'.kind := by
  cases h <;> rfl

structure Failure.Moved (path other : Path) (f g : Failure) : Prop where
  below : ∃ segments, f.location.segments = path.segments ++ segments ∧
    g.location.segments = other.segments ++ segments
  cause : SameCause f.location g.location f.error g.error

def Path.Alongside (path other after after' : Path) : Prop :=
  ∃ segments, after.segments = path.segments ++ segments ∧
    after'.segments = other.segments ++ segments

theorem Path.Alongside.of_push {path other after after' : Path} {segment : String}
    (h : (path.push segment).Alongside (other.push segment) after after') :
    path.Alongside other after after' := by
  obtain ⟨segments, left, right⟩ := h
  refine ⟨segment :: segments, ?_, ?_⟩
  · simp [left]
  · simp [right]

section Faults

variable {actual : Option Value} {e : Expectation} {path : Path} {err : CheckError} {f : Failure}

theorem failureText_cases (e : Expectation) (v : Value) :
    (∀ path : Path, e.failureText v path = s!"Incorrect \"{path}\".") ∨
      ∃ message, ∀ path, e.failureText v path = message := by
  cases e with
  | literal expected => exact .inl fun path => rfl
  | record s fields =>
    obtain ⟨check, operand, transform, message⟩ := s
    cases message with
    | none => exact .inl fun path => rfl
    | some m =>
      rcases operand with _ | (expected | test)
      · exact .inr ⟨m.text v .null, fun path => rfl⟩
      · exact .inr ⟨m.text v expected, fun path => rfl⟩
      · exact .inr ⟨m.text v .null, fun path => rfl⟩

theorem Fault.relocate (h : Fault actual e path err) (other : Path) :
    ∃ err', Fault actual e other err' ∧ SameCause path other err err' := by
  cases h with
  | missing => exact ⟨_, .missing, .missing⟩
  | @misused v e m path h => exact ⟨_, .misused h, .misuse m⟩
  | @differs v e path h =>
    refine ⟨_, .differs h, ?_⟩
    rcases failureText_cases e v with shown | ⟨message, own⟩
    · rw [shown path, shown other]
      exact .incorrect
    · rw [own path, own other]
      exact .worded message

theorem PredicateFault.relocate (h : PredicateFault actual e path err) (other : Path) :
    PredicateFault actual e other err := by
  cases h with
  | aborted kind operand aborted => exact .aborted kind operand aborted

theorem Ends.relocate (h : Ends actual e path err) (other : Path) :
    ∃ err', Ends actual e other err' ∧ SameCause path other err err' := by
  rcases h with fault | fault
  · obtain ⟨err', moved, cause⟩ := fault.relocate other
    exact ⟨err', .inl moved, cause⟩
  · exact ⟨err, .inr (fault.relocate other), .passedOn err⟩

theorem FirstFailure.moves {fault : Option Value → Expectation → Path → CheckError → Prop}
    {Cause : Path → Path → CheckError → CheckError → Prop}
    (h : FirstFailure fault actual e path f)
    (node : ∀ actual e path err, fault actual e path err → ∀ other, ∃ err',
      fault actual e other err' ∧ Cause path other err err') (other : Path) :
    ∃ g, FirstFailure fault actual e other g ∧ path.Alongside other f.location g.location ∧
      Cause f.location g.location f.error g.error := by
  -- The node at fault is the same from either path, and the segments above it are pushed alike.
  induction h generalizing other with
  | here h =>
    obtain ⟨err', moved, cause⟩ := node _ _ _ _ h other
    exact ⟨⟨other, err'⟩, .here moved, ⟨[], by simp, by simp⟩, cause⟩
  | @field members before after name child path f passed below ih =>
    obtain ⟨g, moved, place, cause⟩ := ih (other.push name)
    exact ⟨g, .field passed moved, place.of_push, cause⟩
  | @position items before after key child path f integers passed below ih =>
    obtain ⟨g, moved, place, cause⟩ := ih (other.push key)
    exact ⟨g, .position integers passed moved, place.of_push, cause⟩
  | @item before after item s fields path f each passed below ih =>
    obtain ⟨g, moved, place, cause⟩ := ih (other.push (toString before.length))
    exact ⟨g, .item each passed moved, place.of_push, cause⟩

theorem FirstFailure.relocate (h : FirstFailure Ends actual e path f) (other : Path) :
    ∃ g, FirstFailure Ends actual e other g ∧ f.Moved path other g := by
  obtain ⟨g, moved, place, cause⟩ := h.moves (fun _ _ _ _ ends => ends.relocate) other
  exact ⟨g, moved, place, cause⟩

theorem FirstFailure.relocate_predicate (h : FirstFailure PredicateFault actual e path f)
    (other : Path) : ∃ g, FirstFailure PredicateFault actual e other g ∧ f.error = g.error := by
  have node : ∀ actual e path err, PredicateFault actual e path err → ∀ other, ∃ err',
      PredicateFault actual e other err' ∧ err = err' :=
    fun _ _ _ err fault other => ⟨err, fault.relocate other, rfl⟩
  obtain ⟨g, moved, place, same⟩ := h.moves node other
  exact ⟨g, moved, same⟩

end Faults

theorem compare_relocate (e : Expectation) (actual : Option Value) (path other : Path) :
    match e.compare actual path with
    | .ok () => e.compare actual other = .ok ()
    | .error f => ∃ g, e.compare actual other = .error g ∧ f.Moved path other g := by
  cases outcome : e.compare actual path with
  | ok u => exact (compare_eq_ok_iff.mp outcome).compare_eq other
  | error f =>
    obtain ⟨g, moved, same⟩ := (compare_eq_error_iff.mp outcome).relocate other
    exact ⟨g, moved.compare_eq, same⟩

/-- The path at which a comparison begins is for error reports. From two paths it passes or fails
alike, a failure is of the same kind and lies at the same segments below each, and an error that the
test of a quantifier gave is the same. -/
theorem start_is_diagnostic (actual : Option Value) (e : Expectation) (path other : Path) :
    match (e.walk actual).run path, (e.walk actual).run other with
    | .ok () after, .ok () after' => after = path ∧ after' = other
    | .error err after, .error err' after' => err.kind = err'.kind ∧
        (∃ added, after.segments = path.segments ++ added ∧
          after'.segments = other.segments ++ added) ∧
        (FirstFailure PredicateFault actual e path ⟨after, err⟩ →
          err' = err ∧ FirstFailure PredicateFault actual e other ⟨after', err'⟩)
    | _, _ => False := by
  have relocated := compare_relocate e actual path other
  rw [walk_run_eq, walk_run_eq]
  cases outcome : e.compare actual path with
  | ok u =>
    rw [outcome] at relocated
    rw [relocated]
    exact ⟨rfl, rfl⟩
  | error f =>
    rw [outcome] at relocated
    obtain ⟨g, elsewhere, moved⟩ := relocated
    rw [elsewhere]
    refine ⟨moved.cause.kind, moved.below, fun predicate => ?_⟩
    obtain ⟨g', again, same⟩ := predicate.relocate_predicate other
    -- There is one first failure from the other path, so it is the one that the test gave.
    have first : FirstFailure Ends actual e other g' := again.mono fun _ _ _ _ fault => .inr fault
    have one : g = g' := Except.error.inj (elsewhere.symm.trans first.compare_eq)
    rw [one]
    exact ⟨same.symm, again⟩

theorem start_is_diagnostic_taggedGroups :
    FirstFailure PredicateFault (some taggedGroups) testedTags .root
        ⟨⟨["groups", "1", "tags"]⟩, ⟨.configuration, "elsewhere", "no null here"⟩⟩ ∧
      (testedTags.walk (some taggedGroups)).run ⟨["response", "data"]⟩ =
        .error ⟨.configuration, "elsewhere", "no null here"⟩
          ⟨["response", "data", "groups", "1", "tags"]⟩ ∧
      FirstFailure PredicateFault (some taggedGroups) testedTags ⟨["response", "data"]⟩
        ⟨⟨["response", "data", "groups", "1", "tags"]⟩,
          ⟨.configuration, "elsewhere", "no null here"⟩⟩ := by
  have atRoot : (testedTags.walk (some taggedGroups)).run .root =
      .error ⟨.configuration, "elsewhere", "no null here"⟩ ⟨["groups", "1", "tags"]⟩ := rfl
  have below : (testedTags.walk (some taggedGroups)).run ⟨["response", "data"]⟩ =
      .error ⟨.configuration, "elsewhere", "no null here"⟩
        ⟨["response", "data", "groups", "1", "tags"]⟩ := rfl
  have first := compare_eq_error_iff.mp (run_eq_error_iff.mp atRoot)
  -- An error of the array itself would name the array.
  have predicate : FirstFailure PredicateFault (some taggedGroups) testedTags .root
      ⟨⟨["groups", "1", "tags"]⟩, ⟨.configuration, "elsewhere", "no null here"⟩⟩ :=
    first.fault_or_predicate.resolve_left fun own => absurd own.error_path (by decide)
  have diagnostic := start_is_diagnostic (some taggedGroups) testedTags .root
    ⟨["response", "data"]⟩
  rw [atRoot, below] at diagnostic
  obtain ⟨_, _, passedOn⟩ := diagnostic
  exact ⟨predicate, below, (passedOn predicate).2⟩

end DataMatch
