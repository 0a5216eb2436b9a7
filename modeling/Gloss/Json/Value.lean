import Gloss.Binary

namespace Gloss

inductive Json.Number
  | whole (n : Int)
  | floating (negative : Bool) (magnitude : Binary)
  deriving DecidableEq, Repr

inductive Json
  | null
  | bool (b : Bool)
  | number (n : Json.Number)
  | text (s : String)
  | list (items : List Json)
  | object (members : List (String × Json))

namespace Json

def ofNat (n : Nat) : Json := number (.whole n)

def texts (ss : List String) : Json := list (ss.map text)

def put (members : List (String × Json)) (name : String) (value : Json) : List (String × Json) :=
  match members with
  | [] => [(name, value)]
  | m :: ms => if m.1 = name then (name, value) :: ms else m :: put ms name value

def ofMembers (written : List (String × Json)) : Json :=
  object (written.foldl (fun ms m => put ms m.1 m.2) [])

def member? (name : String) : Json → Option Json
  | object members => members.lookup name
  | _ => none

end Json

end Gloss
