import Gloss.Json.Text

namespace Gloss.Json

def scalar : Json → String
  | null => "null"
  | bool b => toString b
  | number n => n.render
  | text s => Text.render s
  | list _ => "[]"
  | object _ => "\x7b\x7d"

mutual

def compact : Json → String
  | list items => "[" ++ ",".intercalate (compactItems items) ++ "]"
  | object members => "\x7b" ++ ",".intercalate (compactMembers members) ++ "\x7d"
  | j => scalar j

def compactItems : List Json → List String
  | [] => []
  | j :: js => compact j :: compactItems js

def compactMembers : List (String × Json) → List String
  | [] => []
  | (name, j) :: ms => (Text.render name ++ ":" ++ compact j) :: compactMembers ms

end

def lineBreak (level : Nat) : String := "\n" ++ String.ofList (List.replicate (2 * level) ' ')

def block (level : Nat) (opening closing : String) (pieces : List String) : String :=
  if pieces.isEmpty then opening ++ closing
  else
    opening ++ lineBreak (level + 1) ++ ("," ++ lineBreak (level + 1)).intercalate pieces ++ lineBreak level
      ++ closing

mutual

def pretty (level : Nat) : Json → String
  | list items => block level "[" "]" (prettyItems (level + 1) items)
  | object members => block level "\x7b" "\x7d" (prettyMembers (level + 1) members)
  | j => scalar j

def prettyItems (level : Nat) : List Json → List String
  | [] => []
  | j :: js => pretty level j :: prettyItems level js

def prettyMembers (level : Nat) : List (String × Json) → List String
  | [] => []
  | (name, j) :: ms => (Text.render name ++ ": " ++ pretty level j) :: prettyMembers level ms

end

end Gloss.Json
