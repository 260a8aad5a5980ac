import DataMatch.Json.Token

/-! Input formats, how one is chosen, and what can go wrong with reading. -/
namespace DataMatch

inductive Format where
  | json
  | yaml
  | csv
  | jsonLines
deriving DecidableEq, Repr

inductive Source where
  | input
  | document
deriving DecidableEq, Repr

def Source.name : Source → String
  | input => "input"
  | document => "document"

inductive ReadError where
  | unresolvedFormat (source : Source)
  | unsupportedExtension (source : Source) (path : String)
  | json (fault : Json.Fault)
  /-- A line of JSON lines that is not JSON; lines count from 1. -/
  | jsonLine (line : Nat) (fault : Json.Fault)
  | yaml (reason : String)
  | unequalLengths (expected found : Nat)
  | recordNotText
  | lineNotText
  | directory (format : Format)
deriving DecidableEq, Repr

def Json.Fault.reason : Json.Fault → String
  | unfinished => "the text ends too early"
  | malformed => "unexpected text"

def Format.failure : Format → String
  | json => "json parse error"
  | yaml => "yaml parse error"
  | csv => "csv error"
  | jsonLines => "io error"

def ReadError.message : ReadError → String
  | unresolvedFormat source =>
    s!"could not resolve {source.name} format; pass --from or use a known file extension"
  | unsupportedExtension source path => s!"unsupported {source.name} file extension: {path}"
  | json fault => s!"json parse error: {fault.reason}"
  | jsonLine line fault => s!"jsonl parse error on line {line}: {fault.reason}"
  | yaml reason => s!"yaml parse error: {reason}"
  | unequalLengths expected found =>
    s!"csv error: found record with {found} fields, but the header has {expected} fields"
  | recordNotText => "csv error: a record is not UTF-8"
  | lineNotText => "io error: a line is not UTF-8"
  | directory format => s!"{format.failure}: Is a directory (os error 21)"

namespace Format

/-- The last component of a path, if it names a file. Empty components and `.` do not count. -/
def fileName? (path : String) : Option (List Char) :=
  match ((path.toList.splitOn '/').filter fun part => part ≠ [] ∧ part ≠ ['.']).getLast? with
  | some ['.', '.'] => none
  | last => last

/-- What follows the last point of a file name, unless that point begins the name. -/
def extension? (path : String) : Option String := do
  let name ← fileName? path
  let after := (name.reverse.takeWhile (· ≠ '.')).reverse
  let before := name.take (name.length - after.length - 1)
  if after.length < name.length ∧ before ≠ [] then some (String.ofList after) else none

def extensions : List (String × Format) :=
  [("json", json), ("yaml", yaml), ("yml", yaml), ("csv", csv), ("jsonl", jsonLines),
    ("ndjson", jsonLines)]

def ofPath? (path : String) : Option Format := do
  let ext ← extension? path
  extensions.lookup (ext.map Char.toLower)

def resolve (source : Source) (explicit : Option Format) (path : Option String) :
    Except ReadError Format :=
  match explicit, path with
  | some format, _ => .ok format
  | none, none => .error (.unresolvedFormat source)
  | none, some path =>
    match ofPath? path with
    | some format => .ok format
    | none => .error (.unsupportedExtension source path)

end Format

end DataMatch
