import DataMatch.Format.Basic
import DataMatch.Json.Reader
import DataMatch.Text.Blank

/-! JSON lines: one JSON value on each line that is not blank. -/
namespace DataMatch.JsonLines

open Text (isByte)

/-- Lines end at a line feed; after the last one nothing more begins. -/
def splitLines (bytes : Bytes) : List Bytes :=
  match bytes with
  | [] => []
  | b :: rest =>
    if isByte b '\n' then [] :: splitLines rest
    else
      match splitLines rest, rest with
      | line :: lines, _ :: _ => (b :: line) :: lines
      | lines, _ => [b] :: lines

def withoutReturn (line : Bytes) : Bytes :=
  if line.getLast?.any (isByte · '\r') then line.dropLast else line

def readLine (number : Nat) (line : Bytes) : Except ReadError (Option Value) :=
  match Text.ofBytes? line with
  | none => .error .lineNotText
  | some s =>
    let content := Text.trim s
    if content.isEmpty then .ok none
    else
      match Json.read (Text.toBytes content) with
      | .ok v => .ok (some v)
      | .error fault => .error (.jsonLine number fault)

def readFrom (number : Nat) : List Bytes → Except ReadError (List Value)
  | [] => .ok []
  | line :: rest => do
    let first ← readLine number line
    let others ← readFrom (number + 1) rest
    return first.toList ++ others

def read (bytes : Bytes) : Except ReadError (List Value) :=
  readFrom 1 ((splitLines bytes).map withoutReturn)

end DataMatch.JsonLines
