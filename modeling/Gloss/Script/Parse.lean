import Gloss.Script.Grammar.Module

namespace Gloss.Script

def byteOrderMark : Char := '\ufeff'

def withoutMark : List Char → List Char × Nat
  | c :: cs => if c = byteOrderMark then (cs, 3) else (c :: cs, 0)
  | [] => ([], 0)

/-- No construct nests deeper than this. -/
def depth (source : List Char) : Nat := 8 * source.length + 32

abbrev Parser := Language → List Char → Option Tree

/-- Around a whole script, where `in` is an operator only once a statement or a function has begun. -/
def outermost (language : Language) (source : List Char) : Context :=
  { language, bound := source.length + 2, atTop := true, withoutIn := true }

def finalState? (language : Language) (source : List Char) : Option (State source) :=
  (Rule.script (depth source) (outermost language source) (State.start source)).map (·.2)

def parse? (language : Language) (source : List Char) : Option Tree :=
  (finalState? language source).bind fun s =>
    match s.forest with
    | [t] => if s.flawed then none else some t
    | _ => none

end Gloss.Script
