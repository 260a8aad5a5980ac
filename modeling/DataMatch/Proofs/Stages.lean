import DataMatch.Command.Check

/-! The stages of a run, and what can be wrong at each. A run reports what is wrong at the first
stage where anything is; when nothing is wrong anywhere, it reports what checking the documents
gives. What only later stages read has no influence. -/
namespace DataMatch.Command

inductive Step where
  | format
  | opening
  | reading
  | shape
  | meaning

inductive Stage where
  | document (label : Label) (step : Step)
  | inputFormat
  | inputOpening
  | inputReading

def Request.path? (r : Request) : Label → Option String
  | .expectation => some r.expect
  | .requiredFields => r.required

namespace Stage

def ofDocument (label : Label) : List Stage :=
  [document label .format, document label .opening, document label .reading, document label .shape,
    document label .meaning]

def ofInput : List Stage := [inputFormat, inputOpening, inputReading]

def all : List Stage := ofDocument .expectation ++ (ofDocument .requiredFields ++ ofInput)

/-- The file whose contents matter to a stage; its extension alone matters to the first. -/
def file? (r : Request) : Stage → Option String
  | document _ .format => none
  | document label _ => r.path? label
  | inputFormat => none
  | inputOpening => r.input
  | inputReading => r.input

def ReadsStdin (r : Request) (stage : Stage) : Prop := stage = inputReading ∧ r.input = none

end Stage

inductive Holds (files : Files) (path : String) (document : Value) : Prop
  | intro {format : Format} {entry : FileEntry}
      (known : Format.resolve .document none path = .ok format) (opened : files path = .ok entry)
      (read : readEntry format entry = .ok document) : Holds files path document

inductive OpensInput (files : Files) (stdin : Bytes) (r : Request) : FileEntry → Prop
  | file {path : String} {entry : FileEntry} (given : r.input = some path)
      (opened : files path = .ok entry) : OpensInput files stdin r entry
  | stdin (absent : r.input = none) : OpensInput files stdin r (.file stdin)

inductive Fault (files : Files) (stdin : Bytes) (r : Request) : Stage → UsageError → Prop
  | format {label : Label} {path : String} {err : ReadError} (asked : r.path? label = some path)
      (unknown : Format.resolve .document none path = .error err) :
      Fault files stdin r (.document label .format) (.documentFormat label path err)
  | opening {label : Label} {path : String} {err : OpenError} (asked : r.path? label = some path)
      (closed : files path = .error err) :
      Fault files stdin r (.document label .opening) (.openDocument label path err)
  | reading {label : Label} {path : String} {format : Format} {entry : FileEntry} {err : ReadError}
      (asked : r.path? label = some path)
      (known : Format.resolve .document none path = .ok format) (opened : files path = .ok entry)
      (unreadable : readEntry format entry = .error err) :
      Fault files stdin r (.document label .reading) (.read err)
  | shape {label : Label} {path : String} {document : Value} (asked : r.path? label = some path)
      (holds : Holds files path document) (other : document.isObject = false) :
      Fault files stdin r (.document label .shape) (.notAnObject label)
  | expectation {path : String} {document : Value} {err : DocumentError}
      (asked : r.path? .expectation = some path) (holds : Holds files path document)
      (refused : Document.parse document = .error err) :
      Fault files stdin r (.document .expectation .meaning) (.badExpectation err)
  | fieldSet {path : String} {document : Value} {err : DecodeError}
      (asked : r.path? .requiredFields = some path) (holds : Holds files path document)
      (refused : FieldSet.decode document = .error err) :
      Fault files stdin r (.document .requiredFields .meaning) (.badFieldSet err)
  | inputFormat {err : ReadError} (unknown : Format.resolve .input r.format r.input = .error err) :
      Fault files stdin r .inputFormat (.read err)
  | inputOpening {path : String} {err : OpenError} (given : r.input = some path)
      (closed : files path = .error err) :
      Fault files stdin r .inputOpening (.openInput path err)
  | inputReading {format : Format} {entry : FileEntry} {err : ReadError}
      (known : Format.resolve .input r.format r.input = .ok format)
      (opened : OpensInput files stdin r entry) (unreadable : readEntry format entry = .error err) :
      Fault files stdin r .inputReading (.read err)

def Clear (files : Files) (stdin : Bytes) (r : Request) (stage : Stage) : Prop :=
  ∀ e, ¬ Fault files stdin r stage e

/-- The first of the stages at which something is wrong, after these others. -/
structure FirstFault (files : Files) (stdin : Bytes) (r : Request) (stages before : List Stage)
    (stage : Stage) (e : UsageError) : Prop where
  order : ∃ after, stages = before ++ stage :: after
  passed : ∀ earlier ∈ before, Clear files stdin r earlier
  fault : Fault files stdin r stage e

def ExpectationOf (files : Files) (r : Request) (e : Expectation) : Prop :=
  ∃ document, Holds files r.expect document ∧ document.isObject = true ∧
    Document.parse document = .ok e

inductive FieldsOf (files : Files) (r : Request) : Option FieldSet → Prop
  | none (absent : r.required = none) : FieldsOf files r none
  | some {path : String} {document : Value} {fields : FieldSet} (asked : r.required = some path)
      (holds : Holds files path document) (object : document.isObject = true)
      (decoded : FieldSet.decode document = .ok fields) : FieldsOf files r (some fields)

def InputOf (files : Files) (stdin : Bytes) (r : Request) (data : Value) : Prop :=
  ∃ format entry, Format.resolve .input r.format r.input = .ok format ∧
    OpensInput files stdin r entry ∧ readEntry format entry = .ok data

structure Supplied (files : Files) (stdin : Bytes) (r : Request) (inputs : Inputs) : Prop where
  expectation : ExpectationOf files r inputs.expectation
  required : FieldsOf files r inputs.required
  data : InputOf files stdin r inputs.data

inductive Answers (files : Files) (stdin : Bytes) (r : Request) : Response → Prop
  | refused {before : List Stage} {stage : Stage} {e : UsageError}
      (first : FirstFault files stdin r Stage.all before stage e) :
      Answers files stdin r (usageResponse e)
  | checked {inputs : Inputs} (clear : ∀ stage ∈ Stage.all, Clear files stdin r stage)
      (supplied : Supplied files stdin r inputs) :
      Answers files stdin r (verdictResponse
        (checkData (some inputs.data) (.fixed inputs.expectation) inputs.required))

section Faults

variable {files files' : Files} {stdin stdin' : Bytes} {r : Request} {label : Label}
  {path : String} {entry entry' : FileEntry} {document document' : Value}
  {stage : Stage} {e e' : UsageError}

theorem Holds.unique (h : Holds files path document) (h' : Holds files path document') :
    document = document' := by
  obtain ⟨known, opened, read⟩ := h
  obtain ⟨known', opened', read'⟩ := h'
  obtain rfl := Except.ok.inj (known.symm.trans known')
  obtain rfl := Except.ok.inj (opened.symm.trans opened')
  exact Except.ok.inj (read.symm.trans read')

theorem OpensInput.unique (h : OpensInput files stdin r entry)
    (h' : OpensInput files stdin r entry') : entry = entry' := by
  cases h with
  | file given opened =>
    cases h' with
    | file given' opened' =>
      obtain rfl := Option.some.inj (given.symm.trans given')
      exact Except.ok.inj (opened.symm.trans opened')
    | stdin absent => exact nomatch given.symm.trans absent
  | stdin absent =>
    cases h' with
    | file given opened => exact nomatch given.symm.trans absent
    | stdin absent' => rfl

theorem Fault.unique (h : Fault files stdin r stage e) (h' : Fault files stdin r stage e') :
    e = e' := by
  -- A stage fixes the form of its fault, and each part of it is the one result of a function.
  cases h with
  | format asked unknown =>
    cases h' with
    | format asked' unknown' =>
      obtain rfl := Option.some.inj (asked.symm.trans asked')
      rw [Except.error.inj (unknown.symm.trans unknown')]
  | opening asked closed =>
    cases h' with
    | opening asked' closed' =>
      obtain rfl := Option.some.inj (asked.symm.trans asked')
      rw [Except.error.inj (closed.symm.trans closed')]
  | reading asked known opened unreadable =>
    cases h' with
    | reading asked' known' opened' unreadable' =>
      obtain rfl := Option.some.inj (asked.symm.trans asked')
      obtain rfl := Except.ok.inj (known.symm.trans known')
      obtain rfl := Except.ok.inj (opened.symm.trans opened')
      rw [Except.error.inj (unreadable.symm.trans unreadable')]
  | shape asked holds other =>
    cases h' with
    | shape asked' holds' other' => rfl
  | expectation asked holds refused =>
    cases h' with
    | expectation asked' holds' refused' =>
      obtain rfl := Option.some.inj (asked.symm.trans asked')
      obtain rfl := holds.unique holds'
      rw [Except.error.inj (refused.symm.trans refused')]
  | fieldSet asked holds refused =>
    cases h' with
    | fieldSet asked' holds' refused' =>
      obtain rfl := Option.some.inj (asked.symm.trans asked')
      obtain rfl := holds.unique holds'
      rw [Except.error.inj (refused.symm.trans refused')]
  | inputFormat unknown =>
    cases h' with
    | inputFormat unknown' => rw [Except.error.inj (unknown.symm.trans unknown')]
  | inputOpening given closed =>
    cases h' with
    | inputOpening given' closed' =>
      obtain rfl := Option.some.inj (given.symm.trans given')
      rw [Except.error.inj (closed.symm.trans closed')]
  | inputReading known opened unreadable =>
    cases h' with
    | inputReading known' opened' unreadable' =>
      obtain rfl := Except.ok.inj (known.symm.trans known')
      obtain rfl := opened.unique opened'
      rw [Except.error.inj (unreadable.symm.trans unreadable')]

structure SameContents (r : Request) (files files' : Files) (stdin stdin' : Bytes)
    (stage : Stage) : Prop where
  file : ∀ path, stage.file? r = some path → files' path = files path
  stdin : stage.ReadsStdin r → stdin' = stdin

theorem SameContents.symm (h : SameContents r files files' stdin stdin' stage) :
    SameContents r files' files stdin' stdin stage :=
  ⟨fun path used => (h.file path used).symm, fun reads => (h.stdin reads).symm⟩

theorem Holds.transfer (same : files' path = files path) (h : Holds files path document) :
    Holds files' path document := by
  obtain ⟨known, opened, read⟩ := h
  exact ⟨known, same.trans opened, read⟩

theorem OpensInput.transfer (same : SameContents r files files' stdin stdin' .inputReading)
    (h : OpensInput files stdin r entry) : OpensInput files' stdin' r entry := by
  cases h with
  | file given opened => exact .file given ((same.file _ given).trans opened)
  | stdin absent =>
    rw [← same.stdin ⟨rfl, absent⟩]
    exact .stdin absent

theorem Fault.transfer (same : SameContents r files files' stdin stdin' stage)
    (h : Fault files stdin r stage e) : Fault files' stdin' r stage e := by
  cases h with
  | format asked unknown => exact .format asked unknown
  | opening asked closed => exact .opening asked ((same.file _ asked).trans closed)
  | reading asked known opened unreadable =>
    exact .reading asked known ((same.file _ asked).trans opened) unreadable
  | shape asked holds other => exact .shape asked (holds.transfer (same.file _ asked)) other
  | expectation asked holds refused =>
    exact .expectation asked (holds.transfer (same.file _ asked)) refused
  | fieldSet asked holds refused =>
    exact .fieldSet asked (holds.transfer (same.file _ asked)) refused
  | inputFormat unknown => exact .inputFormat unknown
  | inputOpening given closed => exact .inputOpening given ((same.file _ given).trans closed)
  | inputReading known opened unreadable =>
    exact .inputReading known (opened.transfer same) unreadable

end Faults

section FirstFaults

variable {files files' : Files} {stdin stdin' : Bytes} {r : Request} {stage stage' : Stage}
  {stages stages' before before' : List Stage} {e e' : UsageError}

theorem FirstFault.append (h : FirstFault files stdin r stages before stage e)
    (more : List Stage) : FirstFault files stdin r (stages ++ more) before stage e := by
  obtain ⟨⟨after, order⟩, passed, fault⟩ := h
  exact ⟨⟨after ++ more, by simp [order]⟩, passed, fault⟩

theorem FirstFault.past (clear : ∀ earlier ∈ stages, Clear files stdin r earlier)
    (h : FirstFault files stdin r stages' before stage e) :
    FirstFault files stdin r (stages ++ stages') (stages ++ before) stage e := by
  obtain ⟨⟨after, order⟩, passed, fault⟩ := h
  refine ⟨⟨after, by simp [order]⟩, fun earlier member => ?_, fault⟩
  rcases List.mem_append.mp member with first | second
  · exact clear earlier first
  · exact passed earlier second

theorem FirstFault.not_clear (h : FirstFault files stdin r stages before stage e) :
    ¬ ∀ stage ∈ stages, Clear files stdin r stage := by
  obtain ⟨⟨after, rfl⟩, passed, fault⟩ := h
  exact fun clear => clear stage (by simp) e fault

theorem FirstFault.eq_of_longer {middle : List Stage}
    (h : FirstFault files stdin r stages before stage e)
    (h' : FirstFault files stdin r stages (before ++ middle) stage' e') : e = e' := by
  obtain ⟨⟨after, order⟩, passed, fault⟩ := h
  obtain ⟨⟨after', order'⟩, passed', fault'⟩ := h'
  rw [order, List.append_assoc, List.append_cancel_left_eq] at order'
  cases middle with
  | nil =>
    cases order'
    exact fault.unique fault'
  | cons first middle =>
    cases order'
    exact absurd fault (passed' stage (by simp) e)

theorem FirstFault.unique (h : FirstFault files stdin r stages before stage e)
    (h' : FirstFault files stdin r stages before' stage' e') : e = e' := by
  obtain ⟨after, order⟩ := h.order
  obtain ⟨after', order'⟩ := h'.order
  rcases List.append_eq_append_iff.mp (order.symm.trans order') with ⟨_, rfl, _⟩ | ⟨_, rfl, _⟩
  · exact h.eq_of_longer h'
  · exact (h'.eq_of_longer h).symm

theorem FirstFault.transfer (h : FirstFault files stdin r stages before stage e)
    (same : ∀ used ∈ before ++ [stage], SameContents r files files' stdin stdin' used) :
    FirstFault files' stdin' r stages before stage e := by
  obtain ⟨order, passed, fault⟩ := h
  refine ⟨order, fun earlier member e fault => ?_, fault.transfer (same stage (by simp))⟩
  exact passed earlier member e (fault.transfer (same earlier (by simp [member])).symm)

end FirstFaults

/-- A computation that goes through some stages. It has a result when nothing is wrong at any of
them, and otherwise ends with what is wrong at the first. -/
inductive Explained (files : Files) (stdin : Bytes) (r : Request) (stages : List Stage) {α : Type}
    (result : α → Prop) : Except UsageError α → Prop
  | passed {a : α} (clear : ∀ stage ∈ stages, Clear files stdin r stage) (holds : result a) :
      Explained files stdin r stages result (.ok a)
  | failed {before : List Stage} {stage : Stage} {e : UsageError}
      (first : FirstFault files stdin r stages before stage e) :
      Explained files stdin r stages result (.error e)

section Explaining

variable {files : Files} {stdin : Bytes} {r : Request} {stage : Stage}
  {stages stages' : List Stage} {α β ε : Type}

theorem Explained.bind {result : α → Prop} {result' : β → Prop} {x : Except UsageError α}
    {next : α → Except UsageError β} (first : Explained files stdin r stages result x)
    (second : ∀ a, result a → Explained files stdin r stages' result' (next a)) :
    Explained files stdin r (stages ++ stages') result' (x >>= next) := by
  cases first with
  | failed first => exact .failed (first.append stages')
  | @passed a clear holds =>
    -- All before is clear, so what is wrong first afterwards is wrong first in all.
    have rest := second a holds
    change Explained files stdin r (stages ++ stages') result' (next a)
    generalize next a = y at rest ⊢
    cases rest with
    | failed first => exact .failed (first.past clear)
    | passed clear' holds' =>
      refine .passed (fun stage member => ?_) holds'
      rcases List.mem_append.mp member with inFirst | inSecond
      · exact clear stage inFirst
      · exact clear' stage inSecond

theorem Explained.map {result : α → Prop} {result' : β → Prop} {x : Except UsageError α}
    {f : α → β} (h : Explained files stdin r stages result x)
    (mapped : ∀ a, result a → result' (f a)) :
    Explained files stdin r stages result' (f <$> x) := by
  cases h with
  | passed clear holds => exact .passed clear (mapped _ holds)
  | failed first => exact .failed first

theorem Explained.clear {result : α → Prop} {a : α} (clear : Clear files stdin r stage)
    (holds : result a) : Explained files stdin r [stage] result (.ok a) :=
  .passed (List.forall_mem_singleton.mpr clear) holds

theorem Explained.fault {result : α → Prop} {e : UsageError}
    (fault : Fault files stdin r stage e) : Explained files stdin r [stage] result (.error e) :=
  @Explained.failed _ _ _ _ _ _ [] _ _ ⟨⟨[], rfl⟩, nofun, fault⟩

end Explaining

section Clearing

variable {files : Files} {stdin : Bytes} {r : Request} {label : Label} {path : String}
  {format : Format} {entry : FileEntry} {document : Value}

end Clearing

section Loading

variable {files : Files} {stdin : Bytes} {r : Request} {label : Label} {path : String}

end Loading

section Answering

variable {files : Files} {stdin : Bytes} {r : Request} {response : Response}

theorem FieldsOf.unique {required required' : Option FieldSet} (h : FieldsOf files r required)
    (h' : FieldsOf files r required') : required = required' := by
  cases h with
  | none absent =>
    cases h' with
    | none absent' => rfl
    | some asked => exact nomatch absent.symm.trans asked
  | some asked holds object decoded =>
    cases h' with
    | none absent => exact nomatch absent.symm.trans asked
    | some asked' holds' object' decoded' =>
      obtain rfl := Option.some.inj (asked.symm.trans asked')
      obtain rfl := holds.unique holds'
      rw [Except.ok.inj (decoded.symm.trans decoded')]

theorem Supplied.unique {inputs inputs' : Inputs} (h : Supplied files stdin r inputs)
    (h' : Supplied files stdin r inputs') : inputs = inputs' := by
  obtain ⟨⟨document, holds, _, parsed⟩, required, input⟩ := h
  obtain ⟨format, entry, known, opened, read⟩ := input
  obtain ⟨⟨document', holds', _, parsed'⟩, required', input'⟩ := h'
  obtain ⟨format', entry', known', opened', read'⟩ := input'
  obtain rfl := holds.unique holds'
  obtain rfl := Except.ok.inj (known.symm.trans known')
  obtain rfl := opened.unique opened'
  have sameExpectation := Except.ok.inj (parsed.symm.trans parsed')
  have sameRequired := required.unique required'
  have sameData := Except.ok.inj (read.symm.trans read')
  cases inputs
  cases inputs'
  simp_all

theorem Answers.unique {response' : Response} (h : Answers files stdin r response)
    (h' : Answers files stdin r response') : response = response' := by
  cases h with
  | refused first =>
    cases h' with
    | refused first' => rw [first.unique first']
    | checked clear supplied => exact absurd clear first.not_clear
  | checked clear supplied =>
    cases h' with
    | refused first => exact absurd clear first.not_clear
    | checked clear' supplied' => rw [supplied.unique supplied']

end Answering

end DataMatch.Command
