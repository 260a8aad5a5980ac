import DataMatch.Command.Files
import DataMatch.Decode
import DataMatch.Document
import DataMatch.Format.Document
import DataMatch.Match.Data

/-! The command that checks an input against an expectation document. Its stages come one after
another, and the first that fails gives the response. -/
namespace DataMatch.Command

structure Request where
  expect : String
  input : Option String
  required : Option String
  format : Option Format
deriving DecidableEq, Repr

structure Response where
  exitCode : Nat
  payload : Value

inductive Label where
  | expectation
  | requiredFields
deriving DecidableEq, Repr

def Label.name : Label → String
  | expectation => "expectation"
  | requiredFields => "required fields"

inductive UsageError where
  | documentFormat (label : Label) (path : String) (error : ReadError)
  | openDocument (label : Label) (path : String) (error : OpenError)
  | notAnObject (label : Label)
  | badExpectation (error : DocumentError)
  | badFieldSet (error : DecodeError)
  | openInput (path : String) (error : OpenError)
  | read (error : ReadError)

def UsageError.message : UsageError → String
  | documentFormat label path error =>
    s!"unable to resolve {label.name} format from `{path}`: {error.message}"
  | openDocument label path error =>
    s!"failed to open {label.name} file `{path}`: {error.message}"
  | notAnObject label => s!"{label.name} document must be an object"
  | badExpectation error => s!"invalid expectation: {error.message}"
  | badFieldSet error => s!"invalid required fields: {error.message}"
  | openInput path error => s!"failed to open input file `{path}`: {error.message}"
  | read error => error.message

def readEntry (format : Format) (entry : FileEntry) : Except ReadError Value :=
  match entry with
  | .file bytes => format.readDocument bytes
  | .directory => .error (.directory format)

def loadDocument (files : Files) (label : Label) (path : String) : Except UsageError Value := do
  let format ← (Format.resolve .document none path).mapError (.documentFormat label path)
  let entry ← (files path).mapError (.openDocument label path)
  let document ← (readEntry format entry).mapError .read
  if document.isObject then .ok document else .error (.notAnObject label)

def loadExpectation (files : Files) (path : String) : Except UsageError Expectation := do
  let document ← loadDocument files .expectation path
  (Document.parse document).mapError .badExpectation

def loadFieldSet (files : Files) (path : String) : Except UsageError FieldSet := do
  let document ← loadDocument files .requiredFields path
  (FieldSet.decode document).mapError .badFieldSet

def loadInput (files : Files) (stdin : Bytes) (r : Request) : Except UsageError Value := do
  let format ← (Format.resolve .input r.format r.input).mapError .read
  let entry ←
    match r.input with
    | some path => (files path).mapError (.openInput path)
    | none => .ok (.file stdin)
  (readEntry format entry).mapError .read

structure Inputs where
  expectation : Expectation
  required : Option FieldSet
  data : Value

def load (files : Files) (stdin : Bytes) (r : Request) : Except UsageError Inputs := do
  let expectation ← loadExpectation files r.expect
  let required ← r.required.mapM (loadFieldSet files)
  let data ← loadInput files stdin r
  return ⟨expectation, required, data⟩

/-- A mistake in the expectation is the caller's, other errors are the data's. -/
def exitCode (kind : ErrorKind) : Nat :=
  match kind with
  | .configuration => 3
  | .notFound => 2
  | .assertion => 2

def usageResponse (e : UsageError) : Response :=
  ⟨3, .object [("error", .string "input_usage_error"), ("message", .string e.message)]⟩

def verdictResponse : Verdict → Response
  | .ok () => ⟨0, Report.matched.toValue⟩
  | .error e => ⟨exitCode e.kind, (Report.ofError e).toValue⟩

def verdictEvents : Verdict → List Event
  | .ok () => []
  | .error e => [⟨.debug, "check failed", [("kind", e.kind.name), ("path", e.path)]⟩]

def run (files : Files) (stdin : Bytes) (r : Request) : Logged Response :=
  match load files stdin r with
  | .error e => ⟨[], usageResponse e⟩
  | .ok inputs =>
    let verdict := checkData (some inputs.data) (.fixed inputs.expectation) inputs.required
    ⟨dataEvents (some inputs.data) ++ verdictEvents verdict, verdictResponse verdict⟩

end DataMatch.Command
