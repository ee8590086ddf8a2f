import Possession.Config.Decode
import Possession.Config.Path
import Possession.Json.Parser
import Possession.Text.Lossy
import Possession.Text.Small
import Possession.Toml.Document
import Possession.Yaml.Document

/-!
# Sources of configuration

A configuration comes from one document, or from a file under the settings of the
environment. The ending of a file's name tells its format. A setting of the environment has
a name that begins with a mark of its own, in letters of either case, and is written as a
text that is read as a switch, an integer or a number where it can be.
-/

namespace Possession.Config

inductive Format where
  | toml
  | yaml
  | json
deriving Repr, DecidableEq

def Format.ofEnding? : String → Option Format
  | "toml" => some .toml
  | "yaml" | "yml" => some .yaml
  | "json" => some .json
  | _ => none

/-- Why there is no configuration. -/
inductive Failure where
  | noFile (path : String)
  | unknownFormat
  /-- The path is that of a directory. -/
  | notFile (path : String)
  /-- The document is not well formed, or is not a table. -/
  | malformed
  | mismatch (cause : Mismatch)
deriving Repr, DecidableEq

def Failure.message : Failure → String
  | .noFile path => "Configuration file not found: " ++ path
  | .unknownFormat =>
    "Unsupported configuration file format. Use .toml, .yaml, .yml, or .json"
  | .notFile path => parsing ("configuration file " ++ "\"" ++ path ++ "\"" ++ " not found")
  | .malformed => parsing "malformed document"
  | .mismatch cause => parsing cause.message
where
  parsing (reason : String) : String := "Failed to parse configuration: " ++ reason

/-- The members of the document that a text writes. A document that is a list or a single
value holds no settings and is refused like an ill-formed one. -/
def Format.read? (f : Format) (text : String) : Option (List (String × Json)) :=
  let document := match f with
    | .json => Json.read? text
    | .toml => Toml.parse? text
    | .yaml => Yaml.parse? text
  document.bind fun
    | .obj ms => some ms
    | _ => none

/-- The configuration of a document by itself; the environment has no part in it. -/
def ofText (f : Format) (text : String) : Except Failure Value :=
  match f.read? text with
  | none => .error .malformed
  | some ms => .ok (Value.setAll (Value.ofMembers none ms) .empty)

/-! ## The environment -/

/-- Where settings of the environment are said to be set. -/
def environmentOrigin : String := "the environment"

/-- The value that a text of the environment stands for: a switch, else an integer, else a
number, else the text itself. The spelling of a number is lost here, so that `007` and `7`
are the same setting. -/
def readText (text : String) : Scalar :=
  let cs := text.toList
  match String.ofList (cs.map Char.toLower) with
  | "true" => .bool true
  | "false" => .bool false
  | _ =>
    match Decimal.readInt64? cs with
    | some n => .int n
    | none => ((Decimal.readFloat? cs).map Scalar.float).getD (.text text)

/-- Replaces each pair of underscores by a point. -/
def underscoresToPoints : List Char → List Char
  | '_' :: '_' :: rest => '.' :: underscoresToPoints rest
  | c :: rest => c :: underscoresToPoints rest
  | [] => []

/-- The setting of a variable of the environment whose name begins with a mark and two
underscores. The comparison is in small letters, and two underscores in the rest of the name
lead down to a member. -/
def ofVariable (mark : String) (entry : String × String) : Option (String × Value) :=
  let start := (Text.toSmall mark).toList ++ ['_', '_']
  let name := (Text.toSmall entry.1).toList
  if start.isPrefixOf name then
    some (String.ofList (underscoresToPoints (name.drop start.length)),
      .leaf (readText entry.2) (some environmentOrigin))
  else none

/-! ## Files -/

inductive Entry where
  | absent
  | directory
  | file (content : Bytes)

/-- The parts of a path between slashes, but for empty ones and single points. -/
def pathParts (path : Bytes) : List Bytes :=
  (path.splitOn 0x2f).filter fun part => part ≠ [] ∧ part ≠ [0x2e]

/-- The ending of a file's name: what follows its last point, unless that is its first
octet. -/
def ending? (path : Bytes) : Option Bytes := do
  let name ← (pathParts path).getLast?
  if name = [0x2e, 0x2e] then none
  match name.reverse.span (· ≠ 0x2e) with
  | (_, []) => none
  | (_, [_]) => none
  | (last, _) => some last.reverse

/-- How a path is shown where a value was set. -/
def originOfPath (path : Bytes) : String :=
  Text.ofBytesLossy ((pathParts path).intersperse [0x2f]).flatten

/-- The text of a file. A mark of its octet order is left out. -/
def textOfFile (content : Bytes) : String :=
  Text.ofBytesLossy
    (if [0xef, 0xbb, 0xbf].isPrefixOf content then content.drop 3 else content)

/-- The configuration of a file under the environment: the file is merged first and the
variables after it, so that they override it. A path where nothing is comes first among the
failures, then an ending that names no format, and only then what the file holds. -/
def load (path : Bytes) (entry : Entry) (environment : List (String × String))
    (mark : String) : Except Failure Value :=
  let shown := Text.ofBytesLossy path
  match entry with
  | .absent => .error (.noFile shown)
  | entry =>
    match ((ending? path).bind Bytes.toString?).bind Format.ofEnding?,
      Bytes.toString? path with
    | some format, some _ =>
      match entry with
      | .file content =>
        match format.read? (textOfFile content) with
        | none => .error .malformed
        | some ms =>
          .ok (Value.setAll (environment.filterMap (ofVariable mark))
            (Value.setAll (Value.ofMembers (some (originOfPath path)) ms) .empty))
      | _ => .error (.notFile shown)
    | _, _ => .error .unknownFormat

end Possession.Config
