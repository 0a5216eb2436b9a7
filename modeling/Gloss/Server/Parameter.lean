import Gloss.Json.Fault

namespace Gloss

inductive Form
  | text
  | texts
  | count
  deriving DecidableEq, Repr

structure Parameter where
  name : String
  form : Form
  isRequired : Bool := false
  description : Option String := none

inductive Argument
  | text (s : String)
  | texts (ss : List String)
  | count (n : Nat)
  deriving DecidableEq, Repr

abbrev Arguments := List (String × Argument)

namespace Arguments

def text? (arguments : Arguments) (name : String) : Option String :=
  match arguments.lookup name with
  | some (.text s) => some s
  | _ => none

def texts? (arguments : Arguments) (name : String) : Option (List String) :=
  match arguments.lookup name with
  | some (.texts ss) => some ss
  | _ => none

def count? (arguments : Arguments) (name : String) : Option Nat :=
  match arguments.lookup name with
  | some (.count n) => some n
  | _ => none

end Arguments

namespace Form

open Json (Cause)

def wrong {α : Type} (j : Json) (expected : String) : Except Cause α :=
  .error (.wrongType (.ofValue j) expected)

def readText : Json → Except Cause String
  | .text s => .ok s
  | j => wrong j "a string"

def countBound : Nat := Nat.pow 2 32

def readCount : Json → Except Cause Nat
  | .number (.whole (.ofNat n)) =>
    if n < countBound then .ok n else .error (.wrongValue (.number (.whole n)) "u32")
  | .number (.whole n) => .error (.wrongValue (.number (.whole n)) "u32")
  | j => wrong j "u32"

def read : Form → Json → Except Cause Argument
  | text, j => (readText j).map .text
  | texts, .list js => (js.mapM readText).map .texts
  | texts, j => wrong j "a sequence"
  | count, j => (readCount j).map .count

end Form

namespace Parameter

open Json (Cause)

/-- Reads the argument for a parameter; `null` leaves out what is not required. -/
def read (p : Parameter) (j : Json) : Except Cause (Option Argument) :=
  match p.isRequired, j with
  | false, .null => .ok none
  | _, j => (p.form.read j).map some

def labelled (p : Parameter) (argument : Option Argument) : Arguments := (argument.map (p.name, ·)).toList

def readMembers (ps : List Parameter) : List (String × Json) → Except Cause Arguments
  | [] => .ok []
  | (name, j) :: ms =>
    match ps.find? (·.name == name) with
    | none => readMembers ps ms
    | some p => do
      let argument ← p.read j
      return p.labelled argument ++ (← readMembers ps ms)

def missing? (ps : List Parameter) (arguments : Arguments) : Option Parameter :=
  ps.find? fun p => p.isRequired && (arguments.lookup p.name).isNone

def elements (n : Nat) : String := s!"{n} element" ++ if n = 1 then "" else "s"

def readItems (title : String) (length given : Nat) :
    List Parameter → List Json → Except Cause Arguments
  | [], [] => .ok []
  | [], _ :: _ => .error (.wrongLength length "fewer elements in array")
  | p :: ps, [] => .error (.wrongLength given s!"struct {title} with {elements (given + (p :: ps).length)}")
  | p :: ps, j :: js => do
    let argument ← p.read j
    return p.labelled argument ++ (← readItems title length (given + 1) ps js)

def readAll (title : String) (ps : List Parameter) : Json → Except Cause Arguments
  | .object ms => do
    let arguments ← readMembers ps ms
    match missing? ps arguments with
    | some p => throw (.missing p.name)
    | none => return arguments
  | .list js => readItems title js.length 0 ps js
  | j => Form.wrong j s!"struct {title}"

end Parameter

end Gloss
