import DataMatch.Format.Csv
import DataMatch.Format.JsonLines
import DataMatch.Yaml.Encoding
import DataMatch.Yaml.Node

/-! Reading a text in any format, as one document or as a list of values. -/
namespace DataMatch

def Yaml.read (bytes : Bytes) : Except Yaml.Problem Yaml.Tree := do
  let cs ← Yaml.characters bytes
  let events ← Yaml.Event.ofTokens (← Yaml.Token.scan cs)
  Yaml.Tree.ofEvents events

namespace Format

def readJson (bytes : Bytes) : Except ReadError Value := (Json.read bytes).mapError .json

def readYaml (bytes : Bytes) : Except ReadError Value := do
  let tree ← (Yaml.read bytes).mapError fun problem => .yaml problem.message
  tree.toJson.mapError .json

def readDocument (format : Format) (bytes : Bytes) : Except ReadError Value :=
  match format with
  | json => readJson bytes
  | yaml => readYaml bytes
  | csv => (Csv.read bytes).map .array
  | jsonLines => (JsonLines.read bytes).map .array

def itemsOf : Value → List Value
  | .array items => items
  | single => [single]

/-- A list of values; an array at the top is taken apart. -/
def readValues (format : Format) (bytes : Bytes) : Except ReadError (List Value) :=
  match format with
  | json => (readJson bytes).map itemsOf
  | yaml => (readYaml bytes).map itemsOf
  | csv => Csv.read bytes
  | jsonLines => JsonLines.read bytes

end Format

end DataMatch
