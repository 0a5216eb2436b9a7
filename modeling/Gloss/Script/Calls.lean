import Gloss.Script.Parse
import Gloss.Script.Visitor

namespace Gloss.Script

namespace Tree

/-- The first argument of a call of the named function, if it is a quoted text that is a string. -/
def keyOfCall? (function : String) : Tree → Option Literal
  | node .call (word name :: parts) =>
    if name = function then
      match parts.getLast? with
      | some (node .arguments (text l :: _)) => if l.value.isSome then some l else none
      | _ => none
    else none
  | _ => none

def keysOfCalls (visitor : Visitor) (function : String) (t : Tree) : List Literal :=
  t.walk visitor fun u => (keyOfCall? function u).toList

end Tree

structure CallSite where
  key : String
  start : Nat
  stop : Nat
  stopPosition : Position
  deriving DecidableEq, Repr

namespace CallSite

def ofLiteral (index : LineIndex) (shift : Nat) (l : Literal) : CallSite :=
  ⟨l.value.getD "", shift + l.start, shift + l.stop, index.position (shift + l.stop)⟩

/-- The call sites of a document; none if the parser finds no script of the language in it. -/
def scanBy (parser : Parser) (visitor : Visitor) (document function : String) (language : Language) :
    List CallSite :=
  let (source, shift) := withoutMark document.toList
  match parser language source with
  | none => []
  | some t =>
    let index := LineIndex.ofText document.toList
    (t.keysOfCalls visitor function).map (ofLiteral index shift)

def scan (document function : String) (language : Language) : List CallSite :=
  scanBy parse? .byFields document function language

end CallSite

end Gloss.Script
