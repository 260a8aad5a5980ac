import DataMatch.Command.Check

/-! The command line: `check` with its options, help and the version. -/
namespace DataMatch.Command

inductive Invocation where
  | help
  | version
  | check (verbosity : Nat) (request : Request)
deriving DecidableEq, Repr

inductive ArgumentError where
  | unknown (argument : String)
  | missingCommand
  | missingOption (name : String)
  | missingValue (name : String)
  | repeated (name : String)
  | badValue (name value : String)
deriving DecidableEq, Repr

def ArgumentError.message : ArgumentError → String
  | unknown argument => s!"error: unexpected argument '{argument}' found"
  | missingCommand => "error: a subcommand is required but one was not provided"
  | missingOption name => s!"error: the option '{name}' is required but was not provided"
  | missingValue name => s!"error: a value is required for '{name}' but none was supplied"
  | repeated name => s!"error: the option '{name}' cannot be used multiple times"
  | badValue name value => s!"error: invalid value '{value}' for '{name}'"

structure Options where
  verbosity : Nat
  expect : Option String
  input : Option String
  required : Option String
  format : Option Format
deriving DecidableEq, Repr

namespace Options

def none : Options := ⟨0, .none, .none, .none, .none⟩

def louder (o : Options) (steps : Nat) : Options := { o with verbosity := o.verbosity + steps }

def formats : List (String × Format) :=
  [("json", .json), ("yaml", .yaml), ("csv", .csv), ("jsonl", .jsonLines)]

def takePath (name value : String) (old : Option String) : Except ArgumentError String :=
  if value = "" then .error (.missingValue name)
  else if old.isSome then .error (.repeated name)
  else .ok value

def isValued (name : String) : Bool :=
  ["--expect", "--input", "--from", "--required"].contains name

def set (o : Options) (name value : String) : Except ArgumentError Options :=
  match name with
  | "--expect" => (takePath name value o.expect).map fun path => { o with expect := some path }
  | "--input" => (takePath name value o.input).map fun path => { o with input := some path }
  | "--required" =>
    (takePath name value o.required).map fun path => { o with required := some path }
  | "--from" =>
    match formats.lookup value with
    | .none => .error (.badValue name value)
    | some format =>
      if o.format.isSome then .error (.repeated name) else .ok { o with format := some format }
  | _ => .error (.unknown name)

/-- The request of finished options. An input without a path is JSON unless it is said otherwise. -/
def finish (o : Options) : Except ArgumentError Invocation :=
  match o.expect with
  | .none => .error (.missingOption "--expect")
  | some expect =>
    let format := if o.format.isNone && o.input.isNone then some .json else o.format
    .ok (.check o.verbosity ⟨expect, o.input, o.required, format⟩)

end Options

inductive Flags where
  | louder (steps : Nat)
  | stop (what : Invocation)

/-- The letters after a dash. Only the outermost command knows `V`. -/
def readFlags (outermost : Bool) (argument : String) (steps : Nat) :
    List Char → Except ArgumentError Flags
  | [] => .ok (.louder steps)
  | 'v' :: cs => readFlags outermost argument (steps + 1) cs
  | 'h' :: _ => .ok (.stop .help)
  | 'V' :: _ => if outermost then .ok (.stop .version) else .error (.unknown argument)
  | _ :: _ => .error (.unknown argument)

def flagLetters? (argument : String) : Option (List Char) :=
  match argument.toList with
  | '-' :: c :: cs => if c = '-' then none else some (c :: cs)
  | _ => none

def splitValue (argument : String) : String × Option String :=
  let cs := argument.toList
  let name := cs.takeWhile (· ≠ '=')
  (String.ofList name,
    if name.length < cs.length then some (String.ofList (cs.drop (name.length + 1))) else none)

def isValue (argument : String) : Bool :=
  argument = "-" || argument.toList.head? ≠ some '-'

def readCheck (o : Options) : List String → Except ArgumentError Invocation
  | [] => o.finish
  | ["--"] => o.finish
  | "--help" :: _ => .ok .help
  | "--verbose" :: rest => readCheck (o.louder 1) rest
  | argument :: rest => do
    match flagLetters? argument with
    | some letters =>
      match ← readFlags false argument 0 letters with
      | .louder steps => readCheck (o.louder steps) rest
      | .stop what => return what
    | none =>
      match splitValue argument with
      | (name, some value) => readCheck (← o.set name value) rest
      | (name, none) =>
        if Options.isValued name then
          match rest with
          | [] => .error (.missingValue name)
          | value :: rest =>
            if isValue value then readCheck (← o.set name value) rest
            else .error (.missingValue name)
        else .error (.unknown argument)

def readHelp : List String → Except ArgumentError Invocation
  | [] => .ok .help
  | ["check"] => .ok .help
  | ["help"] => .ok .help
  | argument :: _ => .error (.unknown argument)

def readArguments (verbosity : Nat) : List String → Except ArgumentError Invocation
  | [] => .error .missingCommand
  | "check" :: rest => readCheck (Options.none.louder verbosity) rest
  | "help" :: rest => readHelp rest
  | "--help" :: _ => .ok .help
  | "--version" :: _ => .ok .version
  | "--verbose" :: rest => readArguments (verbosity + 1) rest
  | argument :: rest => do
    match flagLetters? argument with
    | some letters =>
      match ← readFlags true argument 0 letters with
      | .louder steps => readArguments (verbosity + steps) rest
      | .stop what => return what
    | none => .error (.unknown argument)

end DataMatch.Command
