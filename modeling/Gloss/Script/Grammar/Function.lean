import Gloss.Script.Grammar.Type

namespace Gloss.Script

namespace Tree

def asksForStrict : List Tree → Bool
  | node .expressionStatement [text l] :: ts =>
    (l.value == some "use strict" && l.stop == l.start + 12) || asksForStrict ts
  | _ => false

end Tree

namespace Rule

variable {source : List Char} (go : Goal → Rule source Unit)

def inFunction (async generator : Bool) (c : Context) : Context :=
  { enclosed c with
    inAsync := async, inGenerator := generator, inFunction := true, inParameters := false
    canBreak := false, canContinue := false, labels := [], inStaticBlock := false
    atTop := false }

/-- Statements between braces. At the end of the text the second brace may be missing by mistake. -/
def statements : Rule source Unit := do
  expectSign "\x7b"
  loop do
    if ← eatSign "\x7d" then return false
    if ← isFinish then
      flaw
      return false
    go (.statement true)
    return true

def bodyOf (parameters : Tree) : Rule source Unit := do
  flawIf ((← read).ambient && (← isTyped))
  let m ← mark
  statements go
  gather m .body
  flawIf (!parameters.areSimple && Tree.asksForStrict (← newest).children)

def inTail (async generator : Bool) (c : Context) : Context :=
  { inFunction async generator c with inReceiver := true, inField := false }

def inParameterList (c : Context) : Context := { c with inParameters := true, inFunction := false }

/-- What follows the parameters. With types, the body may be missing; says whether it is there. -/
def bodyAfter (parameters : Tree) : Rule source Bool := do
  let mayEnd := (← isTyped) && !(← isSign "\x7b")
  if ← pure mayEnd <&&> eatStatementEnd then
    flawIf (parameters.children.any fun p => p.children.any (·.is .defaulted))
    return false
  bodyOf go parameters
  return true

def functionTail (async generator : Bool) (check : Tree → Rule source Unit) : Rule source Bool := do
  within (inTail async generator) do
    typeParameters go false true
    within inParameterList (parameters go true (plainParameter go))
    let ps ← newest
    check ps
    resultType go
    bodyAfter go ps

def uncheckedTail (async generator : Bool) : Rule source Bool := functionTail go async generator fun _ => pure ()

def checkReader (parameters : Tree) : Rule source Unit := flawIf (parameters.parameterCount != 0)

def checkWriter (parameters : Tree) : Rule source Unit :=
  flawIf (parameters.parameterCount != 1 || parameters.startsWithRest)

def function (m : Nat) (async named : Bool) : Rule source Bool := do
  expectWord "function"
  let generator ← eatSign "*"
  if named || ((← isAnyWord) && !(← isWord "this")) then let _ ← declaredName
  let hasBody ← uncheckedTail go async generator
  gather m .function
  return hasBody

def functionExpression (async : Bool) : Rule source Unit := do
  guard (← function go (← mark) async false)

def arrowBody (async : Bool) (m : Nat) (parameters : Tree) : Rule source Unit := do
  within (fun c =>
      { inFunction async false c with
        withoutIn := c.withoutIn, inBranch := c.inBranch, colonAhead := c.colonAhead }) do
    if ← isSign "\x7b" then within enclosed (bodyOf go parameters)
    else go .assignment
  gather m .arrow

end Rule

end Gloss.Script
