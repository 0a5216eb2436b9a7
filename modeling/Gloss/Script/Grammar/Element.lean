import Gloss.Script.Grammar.Expression

namespace Gloss.Script.Rule

variable {source : List Char} (go : Goal → Rule source Unit)

def hyphenatedName : Rule source String := do
  guard (← isAnyWord)
  let cs := (← get).ahead.start.rest
  let n := Token.hyphenated cs
  guard (0 < n)
  skipTo n
  return String.ofList (cs.take n)

def memberNames : (fuel : Nat) → (name : String) → Rule source String
  | 0, _ => failure
  | fuel + 1, name => do
    if ← eatSign "." then memberNames fuel (name ++ "." ++ (← hyphenatedName)) else return name

def elementName : Rule source String := do
  let name ← hyphenatedName
  if ← eatSign ":" then return name ++ ":" ++ (← hyphenatedName)
  memberNames (← read).bound name

def container (empty : Bool) : Rule source Unit := do
  let m ← mark
  expectSign "\x7b"
  if ← isSign "\x7d" then flawIf !empty
  else
    if empty then let _ ← eatSign "..."
    within enclosed (go .expression)
  guard (← isSign "\x7d")
  gather m .container

def attributeValue : Rule source Unit := do
  let s ← get
  match s.ahead.start.rest with
  | [] => failure
  | c :: cs =>
    if c = '"' ∨ c = '\'' then
      match Token.attributeText c cs 1 with
      | some n => skipTo n
      | none => failure
    else if c = '<' then go .element
    else
      container go false
      skip

def attributeOrSpread : Rule source Unit := do
  let m ← mark
  if ← eatSign "\x7b" then
    expectSign "..."
    within enclosed (go .assignment)
    expectSign "\x7d"
    gather m .spread
  else
    let _ ← hyphenatedName
    if ← eatSign ":" then let _ ← hyphenatedName
    if ← eatSign "=" then attributeValue go
    gather m .attribute

def elementChildren : (fuel : Nat) → Rule source Unit
  | 0 => failure
  | fuel + 1 => do
    match Token.elementText (← get).here.rest 0 with
    | none => failure
    | some n => modify (State.skipBy · n)
    if ← isSign "\x7b" then
      container go true
      skip
      elementChildren fuel
    else if "</".toList.isPrefixOf (← get).ahead.start.rest then
      skip
      expectSign "/"
    else
      go .element
      elementChildren fuel

def element : Rule source Unit := do
  let m ← mark
  expectSign "<"
  if ← isCloseAngle then
    closeAngle
    elementChildren go (← read).bound
  else
    let name ← elementName
    if (← isTyped) && (← isOpenAngle) then typeArguments go
    loop do
      if (← isSign "/") || (← isCloseAngle) then return false
      attributeOrSpread go
      return true
    gather m .opening
    unless ← eatSign "/" do
      closeAngle
      elementChildren go (← read).bound
      guard ((← elementName) == name)
  closeAngle
  gather m .element

end Gloss.Script.Rule
