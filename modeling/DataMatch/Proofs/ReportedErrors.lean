import Mathlib.Data.List.Forall2
import DataMatch.ResponseErrors

/-! The two checks on the errors of a response. That there are none fails exactly if there are some,
and tells of each of them beside the verdict. That there is a certain one looks at a single error,
the first of a list, and compares its message; so the two checks never pass together. -/
namespace DataMatch.ResponseErrors

inductive Reads (error : Value) : String → Prop
  | message {text : String} (found : error.get? "message" = some (.string text)) :
      Reads error text
  | whole (other : ∀ text, error.get? "message" ≠ some (.string text)) : Reads error error.text

inductive Announces (level : Level) (error : Value) : Event → Prop
  | intro {text : String} (reads : Reads error text) :
      Announces level error ⟨level, "there should be no error: \"" ++ text ++ "\"", []⟩

/-- The error that is looked at for its message: the first of a list, or the one value itself. -/
inductive Reported : Value → Value → Prop
  | first {error : Value} {rest : List Value} : Reported (.array (error :: rest)) error
  | single {error : Value} (there : error ≠ .null) (alone : ∀ items, error ≠ .array items) :
      Reported error error

def Carries (error : Value) (desired : String) : Prop :=
  ∃ message, error.get? "message" = some message ∧ message.looseEq (.string desired) = true

section NoErrors

variable {errors : List Value} {error : Value} {level : Level}

theorem reads_describe (error : Value) : Reads error (describe error) := by
  unfold describe
  split
  · rename_i text found
    exact .message found
  · rename_i other
    exact .whole other

theorem announces_reportEvent (level : Level) (error : Value) :
    Announces level error (reportEvent level error) :=
  .intro (reads_describe error)

theorem expectNone_of_nonempty (nonempty : errors ≠ []) (level : Option Level) :
    expectNone (some errors) level =
      ⟨level.toList.flatMap fun l => errors.map (reportEvent l),
        .error ⟨.assertion, "", "there should be no errors: " ++ (Value.array errors).text⟩⟩ := by
  cases errors with
  | nil => contradiction
  | cons first rest => rfl

theorem events_expectNone (errors : List Value) (level : Option Level) :
    (expectNone (some errors) level).events =
      level.toList.flatMap fun l => errors.map (reportEvent l) := by
  cases errors with
  | nil => cases level <;> rfl
  | cons first rest => rfl

theorem result_expectNone (errors : List Value) (level : Option Level) :
    (expectNone (some errors) level).result = (expectNone (some errors) none).result := by
  cases errors with
  | nil => rfl
  | cons first rest => rfl

theorem result_expectNone_eq_ok_iff (level : Option Level) :
    (expectNone (some errors) level).result = .ok () ↔ errors = [] := by
  by_cases empty : errors = []
  · subst empty
    exact iff_of_true rfl rfl
  · rw [expectNone_of_nonempty empty]
    exact iff_of_false nofun empty

theorem announced (errors : List Value) (level : Level) :
    List.Forall₂ (Announces level) errors (expectNone (some errors) (some level)).events := by
  rw [events_expectNone, Option.toList_some, List.flatMap_singleton, List.forall₂_map_right_iff]
  exact List.forall₂_same.mpr fun error _ => announces_reportEvent level error

end NoErrors

section HasError

variable {errors others error : Value} {desired : String}

theorem looseEq_string (s t : String) :
    (Value.string s).looseEq (.string t) = true ↔ s = t := by
  rw [Value.looseEq, Value.agree_primitive rfl]
  simp [Value.looseLeaf, Value.isContainer]

theorem Reported.expectMessage_eq (h : Reported errors error) (desired : String) :
    expectMessage (some errors) desired =
      if (error.get? "message").any fun message => message.looseEq (.string desired) then
        .ok ()
      else
        .error ⟨.assertion, "", "there should be error: \"" ++ desired ++ "\""⟩ := by
  cases h with
  | first => rfl
  | single there alone =>
    cases errors with
    | null => contradiction
    | array items => exact absurd rfl (alone items)
    | _ => rfl

theorem Reported.expectMessage_eq_ok_iff (h : Reported errors error) :
    expectMessage (some errors) desired = .ok () ↔ Carries error desired := by
  rw [h.expectMessage_eq, Carries, ← Option.any_eq_true]
  split
  · rename_i carried
    exact iff_of_true rfl carried
  · rename_i other
    exact iff_of_false nofun other

theorem Reported.expectMessage_congr (h : Reported errors error) (h' : Reported others error)
    (desired : String) : expectMessage (some errors) desired = expectMessage (some others) desired := by
  rw [h.expectMessage_eq, h'.expectMessage_eq]

theorem expectMessage_nil (desired : String) :
    expectMessage (some (.array [])) desired =
      .error ⟨.assertion, "", "there should be error: \"" ++ desired ++ "\""⟩ := rfl

theorem carries_iff_of_text {message : String} (found : error.get? "message" = some (.string message)) :
    Carries error desired ↔ message = desired := by
  rw [← looseEq_string]
  constructor
  · rintro ⟨other, found', equal⟩
    rw [Option.some.inj (found.symm.trans found')]
    exact equal
  · intro equal
    exact ⟨_, found, equal⟩

end HasError

/-- The two checks on one list are coherent. The first passes exactly if the list is empty; it tells
of each error once, in the order of the list and at the level that is given, which never changes its
verdict. Then the second one fails. This looks at the first error alone, which may as well be given
without a list, and where the message is a text it has to be the desired one. -/
theorem response_checks_coherent (errors : List Value) (desired : String) (level : Option Level) :
    ((expectNone (some errors) level).result = .ok () ↔ errors = []) ∧
      (∀ l, level = some l →
        List.Forall₂ (Announces l) errors (expectNone (some errors) level).events) ∧
      (level = none → (expectNone (some errors) level).events = []) ∧
      (∀ other, (expectNone (some errors) level).result = (expectNone (some errors) other).result) ∧
      ¬ ((expectNone (some errors) level).result = .ok () ∧
        expectMessage (some (.array errors)) desired = .ok ()) ∧
      (∀ others, errors.head? = others.head? →
        expectMessage (some (.array errors)) desired =
          expectMessage (some (.array others)) desired) ∧
      (∀ error, error ≠ .null → (∀ items, error ≠ .array items) →
        expectMessage (some error) desired = expectMessage (some (.array [error])) desired) ∧
      ∀ first rest message, errors = first :: rest →
        first.get? "message" = some (.string message) →
        (expectMessage (some (.array errors)) desired = .ok () ↔ message = desired) := by
  refine ⟨result_expectNone_eq_ok_iff level, ?_, ?_, ?_, ?_, ?_, ?_, ?_⟩
  · rintro l rfl
    exact announced errors l
  · rintro rfl
    exact events_expectNone errors none
  · intro other
    rw [result_expectNone errors level, result_expectNone errors other]
  · rintro ⟨passed, found⟩
    obtain rfl := (result_expectNone_eq_ok_iff level).mp passed
    rw [expectMessage_nil] at found
    contradiction
  · intro others same
    cases errors with
    | nil =>
      obtain rfl : others = [] := List.head?_eq_none_iff.mp same.symm
      rfl
    | cons first rest =>
      obtain ⟨rest', rfl⟩ := List.head?_eq_some_iff.mp same.symm
      exact Reported.first.expectMessage_congr .first desired
  · intro error there alone
    exact (Reported.single there alone).expectMessage_congr .first desired
  · rintro first rest message rfl found
    rw [Reported.first.expectMessage_eq_ok_iff, carries_iff_of_text found]

def refusals : List Value := [.object [("message", .string "Forbidden")], .int 7]

theorem response_checks_coherent_refusals :
    (refusals ≠ [] ∧ List.Forall₂ (Announces .warn) refusals
        (expectNone (some refusals) (some .warn)).events) ∧
      (expectNone (some refusals) (some .warn)).events =
        [⟨.warn, "there should be no error: \"Forbidden\"", []⟩,
          ⟨.warn, "there should be no error: \"7\"", []⟩] ∧
      (expectNone (some refusals) (some .warn)).result = .error ⟨.assertion, "",
        "there should be no errors: [\x7b\"message\":\"Forbidden\"\x7d,7]"⟩ ∧
      expectMessage (some (.array refusals)) "Forbidden" = .ok () ∧
      expectMessage (some (.object [("message", .string "Forbidden")])) "Forbidden" =
        expectMessage (some (.array [.object [("message", .string "Forbidden")]])) "Forbidden" := by
  obtain ⟨_, told, _, _, _, _, single, equal⟩ :=
    response_checks_coherent refusals "Forbidden" (some .warn)
  refine ⟨⟨nofun, told .warn rfl⟩, ?_, ?_, (equal _ _ "Forbidden" rfl rfl).mpr rfl, ?_⟩
  · decide +kernel
  · decide +kernel
  · exact single _ nofun nofun

end DataMatch.ResponseErrors
