import Gloss.Escape
import Gloss.Dictionary
import Gloss.Script.Calls

namespace Gloss

structure Hint where
  key : String
  offset : Nat
  position : Position
  text : String
  deriving DecidableEq, Repr

namespace Hint

/-- A call whose key is missing, or whose text is empty, has no hint. -/
def ofSite? (dictionary : Dictionary) (site : Script.CallSite) : Option Hint :=
  let text := Escape.decode (dictionary[site.key]?.getD "")
  if text.isEmpty then none else some ⟨site.key, site.stop, site.stopPosition, text⟩

def resolve (sites : List Script.CallSite) (dictionary : Dictionary) : List Hint :=
  sites.filterMap (ofSite? dictionary)

end Hint

structure Candidate where
  key : String
  text : String
  deriving DecidableEq, Repr

namespace Candidate

def label (c : Candidate) : String := c.key ++ "(" ++ c.text ++ ")"

def detail (c : Candidate) : String := c.key ++ ": " ++ c.text

def insertion (c : Candidate) : String := c.key

def ofDictionary (dictionary : Dictionary) : List Candidate :=
  dictionary.toList.map fun (key, raw) => ⟨key, Escape.decode raw⟩

def isQuote (c : Char) : Bool := c == '"' || c == '\'' || c == '\x60'

def isTriggered (line function : String) : Bool :=
  match line.toList.reverse with
  | c :: '(' :: before => isQuote c && function.toList.reverse.isPrefixOf before
  | _ => false

end Candidate

end Gloss
