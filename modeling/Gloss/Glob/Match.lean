import Gloss.Glob.Pattern

namespace Gloss.Glob

def Token.accepts : Token → Char → Bool
  | .char d, c => c == d
  | .any, c => c != '/'
  | .within rs, c => c != '/' && rs.any (·.has c)
  | .except rs, c => c != '/' && !rs.any (·.has c)
  | _, _ => false

/-- `exhausted`: the text ended where a character was needed, so that no later start can match. -/
inductive Outcome
  | matched
  | failed
  | exhausted
  deriving DecidableEq, Repr

def afterSequence (next : List Char → Outcome) : List Char → Outcome
  | [] => next []
  | c :: cs =>
    match next (c :: cs) with
    | .failed => if c = '/' then .failed else afterSequence next cs
    | found => found

def afterSeparators (next : List Char → Outcome) : List Char → Outcome
  | [] => next []
  | c :: cs =>
    if c = '/' then
      match next cs with
      | .failed => afterSeparators next cs
      | found => found
    else afterSeparators next cs

def afterDirectories (next : List Char → Outcome) (cs : List Char) : Outcome :=
  match next cs with
  | .failed => afterSeparators next cs
  | found => found

def run : List Token → List Char → Outcome
  | [], cs => if cs.isEmpty then .matched else .failed
  | .sequence :: ts, cs => afterSequence (run ts) cs
  | .directories :: ts, cs => afterDirectories (run ts) cs
  | _ :: _, [] => .exhausted
  | t :: ts, c :: cs => if t.accepts c then run ts cs else .failed

end Gloss.Glob

namespace Gloss

def Glob.hits (glob : Glob) (text : String) : Bool := Glob.run glob.tokens text.toList == .matched

end Gloss
