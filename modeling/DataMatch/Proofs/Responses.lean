import DataMatch.Command.Program
import DataMatch.Proofs.JsonLine

/-! What a run says by its exit code it says by its payload, and by the stream that the payload goes
to. -/
namespace DataMatch.Command

def IsObjectOf (v : Value) (members : Members) : Prop :=
  ∃ own : Members, v = .object own ∧ own.Perm members

def ReportsFailure (names : List String) (payload : Value) : Prop :=
  ∃ name ∈ names, ∃ path message, IsObjectOf payload [("matched", .bool false),
    ("error", .string name), ("path", .string path), ("message", .string message)]

def ReportsUsage (payload : Value) : Prop :=
  ∃ message, IsObjectOf payload [("error", .string "input_usage_error"),
    ("message", .string message)]

structure Response.Coherent (r : Response) : Prop where
  codes : r.exitCode = 0 ∨ r.exitCode = 2 ∨ r.exitCode = 3
  matched : r.exitCode = 0 ↔ r.payload = .object [("matched", .bool true)]
  failed : r.exitCode = 2 ↔ ReportsFailure ["assertion_error", "not_found_error"] r.payload
  refused : r.exitCode = 3 ↔
    ReportsFailure ["configuration_error"] r.payload ∨ ReportsUsage r.payload

/-- The output is the payload as one line, on standard output or else on standard error, and the
exit code is that of the response. -/
structure Response.PrintedBy (r : Response) (o : Output) : Prop where
  exitCode : o.exitCode = r.exitCode
  line : Text.IsLine r.payload.text
  stdout : r.exitCode = 0 ∨ r.exitCode = 2 → o.stdout = r.payload.text ++ "\n" ∧ o.stderr = none
  stderr : ¬ (r.exitCode = 0 ∨ r.exitCode = 2) → o.stdout = "" ∧ o.stderr = some r.payload

section Payloads

variable {members : Members} {names : List String}

theorem not_reportsFailure_of_length (other : members.length ≠ 4) :
    ¬ ReportsFailure names (.object members) := by
  rintro ⟨name, listed, path, message, own, same, perm⟩
  cases same
  exact other perm.length_eq

theorem not_reportsUsage_of_length (other : members.length ≠ 2) :
    ¬ ReportsUsage (.object members) := by
  rintro ⟨message, own, same, perm⟩
  cases same
  exact other perm.length_eq

theorem toValue_ofError (e : CheckError) :
    (Report.ofError e).toValue = .object [("matched", .bool false), ("error", .string e.kind.name),
      ("path", .string e.path), ("message", .string e.message)] := rfl

theorem reportsFailure_ofError_iff (e : CheckError) :
    ReportsFailure names (Report.ofError e).toValue ↔ e.kind.name ∈ names := by
  rw [toValue_ofError]
  constructor
  · rintro ⟨name, listed, path, message, own, same, perm⟩
    have member : ("error", Value.string name) ∈ own := perm.mem_iff.mpr (by simp)
    cases same
    have shown : name = e.kind.name := by simpa using member
    exact shown ▸ listed
  · intro listed
    exact ⟨e.kind.name, listed, e.path, e.message, _, rfl, .refl _⟩

end Payloads

theorem usageResponse_coherent (e : UsageError) : (usageResponse e).Coherent where
  codes := .inr (.inr rfl)
  matched := by simp [usageResponse]
  failed := iff_of_false (by simp [usageResponse]) (not_reportsFailure_of_length (by simp))
  refused := iff_of_true rfl (.inr ⟨e.message, _, rfl, .refl _⟩)

theorem matchedResponse_coherent : (verdictResponse (.ok ())).Coherent := by
  have payload : (verdictResponse (.ok ())).payload = .object [("matched", .bool true)] := rfl
  have noFailure : ∀ names, ¬ ReportsFailure names (verdictResponse (.ok ())).payload := by
    intro names
    rw [payload]
    exact not_reportsFailure_of_length (by simp)
  have noUsage : ¬ ReportsUsage (verdictResponse (.ok ())).payload := by
    rw [payload]
    exact not_reportsUsage_of_length (by simp)
  constructor
  · exact .inl rfl
  · exact iff_of_true rfl payload
  · exact iff_of_false nofun (noFailure _)
  · exact iff_of_false nofun (not_or.mpr ⟨noFailure _, noUsage⟩)

theorem errorResponse_coherent (e : CheckError) : (verdictResponse (.error e)).Coherent := by
  have code : (verdictResponse (.error e)).exitCode = exitCode e.kind := rfl
  have payload : (verdictResponse (.error e)).payload = (Report.ofError e).toValue := rfl
  have noUsage : ¬ ReportsUsage (Report.ofError e).toValue := by
    rw [toValue_ofError]
    exact not_reportsUsage_of_length (by simp)
  constructor
  · rw [code]
    cases e.kind <;> decide
  · rw [code, payload, toValue_ofError]
    refine iff_of_false ?_ (by simp)
    cases e.kind <;> decide
  · rw [code, payload, reportsFailure_ofError_iff]
    cases e.kind <;> decide
  · rw [code, payload, reportsFailure_ofError_iff, or_iff_left noUsage]
    cases e.kind <;> decide

theorem run_coherent (files : Files) (stdin : Bytes) (r : Request) :
    (run files stdin r).result.Coherent := by
  unfold run
  cases load files stdin r with
  | error e => exact usageResponse_coherent e
  | ok inputs =>
    dsimp only
    cases checkData (some inputs.data) (.fixed inputs.expectation) inputs.required with
    | ok u => exact matchedResponse_coherent
    | error e => exact errorResponse_coherent e

theorem responseOutput_prints (verbosity : Nat) (logged : Logged Response) :
    logged.result.PrintedBy (responseOutput verbosity logged) := by
  have line : Text.IsLine logged.result.payload.text := logged.result.payload.isLine_text
  unfold responseOutput
  split_ifs with checked
  · exact ⟨rfl, line, fun _ => ⟨rfl, rfl⟩, fun other => absurd checked other⟩
  · exact ⟨rfl, line, fun other => absurd other checked, fun _ => ⟨rfl, rfl⟩⟩

/-- Exit codes, payloads and streams are coherent. Every run ends with 0, 2 or 3, and its payload
tells which; the program exits with that code and prints the payload as one line, on standard output
once the check has been made. -/
theorem response_coherent (files : Files) (stdin : Bytes) (r : Request) :
    (run files stdin r).result.Coherent ∧
      ∀ arguments verbosity, readArguments 0 arguments = .ok (.check verbosity r) →
        (run files stdin r).result.PrintedBy (runProgram files stdin arguments) := by
  refine ⟨run_coherent files stdin r, fun arguments verbosity read => ?_⟩
  rw [runProgram, read]
  exact responseOutput_prints verbosity (run files stdin r)

def countFiles : Files := fun path =>
  if path = "count.json" then
    .ok (.file (Text.toBytes "\x7b\"n\":\x7b\"$check\":\">=\",\"$value\":0\x7d\x7d"))
  else
    .error .notFound

def negativeCount : Bytes := Text.toBytes "\x7b\"n\":-1\x7d"

def countRequest : Request := ⟨"count.json", none, none, some .json⟩

theorem response_coherent_negativeCount :
    readArguments 0 ["check", "-v", "--expect=count.json"] = .ok (.check 1 countRequest) ∧
      (run countFiles negativeCount countRequest).result.exitCode = 2 ∧
      ReportsFailure ["assertion_error", "not_found_error"]
        (run countFiles negativeCount countRequest).result.payload ∧
      (runProgram countFiles negativeCount ["check", "-v", "--expect=count.json"]).exitCode = 2 ∧
      (runProgram countFiles negativeCount ["check", "-v", "--expect=count.json"]).stdout =
        (run countFiles negativeCount countRequest).result.payload.text ++ "\n" ∧
      (run countFiles negativeCount countRequest).result.payload.text =
        "\x7b\"matched\":false,\"error\":\"assertion_error\",\"path\":\"n\"," ++
          "\"message\":\"Incorrect \\\"n\\\".\"\x7d" := by
  have read : readArguments 0 ["check", "-v", "--expect=count.json"] =
      .ok (.check 1 countRequest) := rfl
  have code : (run countFiles negativeCount countRequest).result.exitCode = 2 := by
    decide +kernel
  obtain ⟨coherent, printed⟩ := response_coherent countFiles negativeCount countRequest
  have printed := printed _ 1 read
  refine ⟨read, code, coherent.failed.mp code, printed.exitCode.trans code, ?_, ?_⟩
  · exact (printed.stdout (.inr code)).1
  · decide +kernel

end DataMatch.Command
