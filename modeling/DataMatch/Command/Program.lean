import DataMatch.Command.Arguments

/-! The whole program: from arguments, files and standard input to what it writes and its exit
code. -/
namespace DataMatch.Command

structure Output where
  exitCode : Nat
  stdout : String
  stderr : Option Value
  log : List Event

def programName : String := "datacheck"

def versionText : String := programName ++ " 0.1.0\n"

def helpText : String :=
  "Declarative assertions over nested response data\n\n" ++
  "Usage: " ++ programName ++ " [OPTIONS] <COMMAND>\n\n" ++
  "Commands:\n" ++
  "  check  Check input data against an expectation document\n" ++
  "  help   Print this message or the help of the given subcommand(s)\n\n" ++
  "Options of check:\n" ++
  "      --expect <EXPECT>      Expectation document (json or yaml)\n" ++
  "      --input <INPUT>        Input data; stdin when omitted\n" ++
  "      --from <FROM>          Input format: json, yaml, csv, jsonl\n" ++
  "      --required <REQUIRED>  Required-field set document\n\n" ++
  "Options:\n" ++
  "  -v, --verbose...  Increase log verbosity on stderr\n" ++
  "  -h, --help        Print help\n" ++
  "  -V, --version     Print version\n"

def argumentOutput (e : ArgumentError) : Output :=
  ⟨3, "",
    some (.object [("error", .string "input_usage_error"), ("message", .string e.message),
      ("code", .int 3), ("details", .object [("kind", .string "cli_parse_error")])]), []⟩

/-- Whether an event is logged: warnings always, and more at each step of verbosity. -/
def isLogged (verbosity : Nat) (e : Event) : Bool :=
  match e.level with
  | .debug => 2 ≤ verbosity
  | .warn => true
  | .error => true

/-- The payload goes to standard output if the check has been made, else to standard error. -/
def responseOutput (verbosity : Nat) (r : Logged Response) : Output :=
  let log := r.events.filter (isLogged verbosity)
  if r.result.exitCode = 0 ∨ r.result.exitCode = 2 then
    ⟨r.result.exitCode, r.result.payload.text ++ "\n", none, log⟩
  else
    ⟨r.result.exitCode, "", some r.result.payload, log⟩

def runProgram (files : Files) (stdin : Bytes) (arguments : List String) : Output :=
  match readArguments 0 arguments with
  | .error e => argumentOutput e
  | .ok .help => ⟨0, helpText, none, []⟩
  | .ok .version => ⟨0, versionText, none, []⟩
  | .ok (.check verbosity request) => responseOutput verbosity (run files stdin request)

end DataMatch.Command
