import Gloss.Path
import Gloss.Properties
import Gloss.Json.Reader
import Gloss.Json.Leaves

namespace Gloss

inductive Format
  | properties
  | json
  deriving DecidableEq, Repr

namespace Format

inductive Error
  | json (e : Json.Error)
  | notObject

def Error.message : Error → String
  | json e => "Failed to parse JSON: " ++ e.message
  | notObject => "Expected a JSON object at the top level"

def id : Format → String
  | properties => "properties"
  | json => "json"

def ofPath? (path : Path) : Option Format :=
  match path.extension? with
  | some "properties" => some properties
  | some "json" => some json
  | _ => none

def ofObject : Json → Except Error Dictionary
  | .object members => .ok (Dictionary.ofPairs (Json.memberLeaves "" members))
  | _ => .error .notObject

def parse (text : String) : Format → Except Error Dictionary
  | properties => .ok (Properties.parse text)
  | json => (Json.read text).mapError .json >>= ofObject

def parseFile (path : Path) (text : String) : Except Error Dictionary :=
  match ofPath? path with
  | some format => format.parse text
  | none => .ok ∅

end Format

end Gloss
