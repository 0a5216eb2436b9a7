import Gloss.Json.Value

namespace Gloss.Json

def keyBelow (key name : String) : String := if key.isEmpty then name else key ++ "." ++ name

mutual

/-- The texts of a value and their keys, in the order of the members; lists are not searched, and
a text needs a key that is not empty. -/
def leaves (key : String) : Json → List (String × String)
  | text s => if key.isEmpty then [] else [(key, s)]
  | object members => memberLeaves key members
  | _ => []

def memberLeaves (key : String) : List (String × Json) → List (String × String)
  | [] => []
  | (name, j) :: ms => leaves (keyBelow key name) j ++ memberLeaves key ms

end

end Gloss.Json
