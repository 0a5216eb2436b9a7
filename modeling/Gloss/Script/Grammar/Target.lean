import Gloss.Script.Grammar.Goal

namespace Gloss.Script

namespace Rule

variable {source : List Char} (go : Goal → Rule source Unit)

def admitsIn (c : Context) : Context := { c with withoutIn := false, inForHead := false }

def detached (c : Context) : Context := { c with colonAhead := false, inForHead := false }

/-- Inside brackets, where no colon can close the branch of a conditional. -/
def enclosed (c : Context) : Context := { detached c with withoutIn := false }

def key : Rule source Key := do
  match ← token with
  | .word name _ => skip; return .name name
  | .text value => skip; return .text value
  | .number | .bigNumber => skip; return .number
  | .sign "[" =>
    skip
    let m ← mark
    within enclosed (go .assignment)
    expectSign "]"
    gather m .computedKey
    return .computed
  | _ => failure

def annotation (m : Nat) : Rule source Unit := do
  if (← isTyped) && (← isSign ":") then
    skip
    let t ← mark
    go .type
    gather t .type
    gather m .annotated

def bindingElement : Rule source Unit := do
  let m ← mark
  go .target
  if ← eatSign "=" then
    flawIf (← read).ambient
    within enclosed (go .assignment)
    gather m .defaulted

def arrayTarget : Rule source Unit := do
  let m ← mark
  expectSign "["
  loop do
    if ← eatSign "]" then return false
    if ← eatSign "," then
      leaf .hole
      return true
    let e ← mark
    if ← eatSign "..." then
      go .target
      gather e .rest
      unless ← isSign "]" do
        expectSign ","
        flaw
    else
      bindingElement go
      unless ← isSign "]" do expectSign ","
    return true
  gather m .arrayPattern

def objectTargetEntry : Rule source Unit := do
  let m ← mark
  if ← eatSign "..." then
    go .target
    guard (← newest).name?.isSome
    gather m .rest
    flawIf (← isSign ",")
  else
    match ← key go with
    | .name name =>
      if ← eatSign ":" then
        bindingElement go
        gather m .property
      else
        leaveName name
        if ← eatSign "=" then
          within enclosed (go .assignment)
          gather m .defaulted
        else gather m .shorthand
    | _ =>
      expectSign ":"
      bindingElement go
      gather m .property

def objectTarget : Rule source Unit := do
  let m ← mark
  expectSign "\x7b"
  let _ ← listUntil "\x7d" (objectTargetEntry go)
  gather m .objectPattern

def target : Rule source Unit := do
  match ← token with
  | .sign "[" => arrayTarget go
  | .sign "\x7b" => objectTarget go
  | _ => leaveName (← declaredName)

def eatAccessWord : Rule source Bool := do
  unless ← isTyped do return false
  match ← token, (← following).1 with
  | .word name false, .word _ _ | .word name false, .sign "\x7b" | .word name false, .sign "[" =>
    unless accessWords.contains name do return false
    skip
    return true
  | _, _ => return false

def plainParameter : Rule source Unit := do
  flawIf (← eatAccessWord)
  let m ← mark
  go .target
  let optional ← if ← isTyped then eatSign "?" else pure false
  annotation go m
  if ← eatSign "=" then
    flawIf (optional || (← read).ambient)
    go .assignment
    gather m .defaulted

def restParameter : Rule source Unit := do
  let m ← mark
  expectSign "..."
  go .target
  if ← eatSign "=" then
    flaw
    go .assignment
  if (← isTyped) && (← isSign ":") then
    skip
    let t ← mark
    go .type
    gather t .type
  gather m .rest
  if ← isTyped then flawIf (← eatSign "?")

def decorators : Rule source Unit := do
  if ← isSign "@" then
    let m ← mark
    loop do
      unless ← isSign "@" do return false
      go .decorator
      return true
    gather m .decorators

def parameterItems (decorated : Bool) (plain : Rule source Unit) : Rule source Unit := do
  expectSign "("
  loop do
    if ← eatSign ")" then return false
    let p ← mark
    decorators go
    unless decorated do forget p
    if ← isSign "..." then
      restParameter go
      gather p .parameter
      unless ← isSign ")" do
        expectSign ","
        flaw
    else
      plain
      gather p .parameter
      unless ← isSign ")" do expectSign ","
    return true

def parameters (decorated : Bool) (plain : Rule source Unit) : Rule source Unit := do
  let m ← mark
  parameterItems go decorated plain
  gather m .parameters

end Rule

namespace Tree

def boundName? : Tree → Option String
  | word name => some name
  | node .annotated (word name :: _) => some name
  | _ => none

def isSimpleParameter : Tree → Bool
  | node .parameter cs => cs.all fun t => t.is .decorators || t.boundName?.isSome
  | t => t.boundName?.isSome

def areSimple (t : Tree) : Bool := t.children.all isSimpleParameter

def parameterCount (t : Tree) : Nat :=
  (t.children.filter fun p => (p.children.getLast?.bind boundName?) != some "this").length

def startsWithRest (t : Tree) : Bool :=
  (t.children.head?.bind (·.children.getLast?)).any (·.is .rest)

end Tree

end Gloss.Script
