import Gloss.Script.Grammar.Expression

namespace Gloss.Script

def builtInTypes : List String :=
  ["string", "null", "number", "object", "any", "unknown", "boolean", "bigint", "symbol", "void",
    "never", "intrinsic"]

structure Modifiers where
  declared : Bool := false
  accessible : Bool := false
  fixed : Bool := false
  abstract : Bool := false
  overriding : Bool := false
  readonly : Bool := false

inductive Member
  | constructor
  | abstract
  | other
  deriving DecidableEq

namespace Rule

variable {source : List Char} (go : Goal → Rule source Unit)

def heritage : Rule source Unit := do
  let m ← mark
  go .callee
  subscripts go false false m
  scatter .instantiation
  if (← isTyped) && (← isOpenAngle) then typeArguments go

def interfaceName : Rule source Unit := do
  let m ← mark
  leaveName (← identifierName)
  subscripts go true true m
  let named := (← newest)
  flawIf !(named.name?.isSome || named.is .member || named.is .instantiation)
  if ← isOpenAngle then typeArguments go

def interfaceNames : Rule source Unit :=
  delimited (return (← isSign "\x7b") || (← isWord "extends") || (← isWord "implements")) (interfaceName go)

def implemented : Rule source Unit := do
  let m ← mark
  interfaceNames go
  gather m .implemented

def isMethodStart : Rule source Bool := do
  return (← isSign "(") || ((← isTyped) && (← isOpenAngle))

/-- Whether the key just read is that of a field; `byLine` lets a new line end the field. -/
def isFieldStart (byLine : Bool) : Rule source Bool := do
  if (← isTyped) && ((← isSign "!") || (← isSign ":")) then return true
  if (← isSign "=") || (← isSign "\x7d") then return true
  if byLine then isStatementEnd else isSign ";"

def accessibility : List String := ["public", "protected", "private"]

def eatAccessibility : Rule source Bool := do
  unless (← isTyped) && (← isModifier (accessibility ++ ["in", "out"])) do return false
  let name ← identifierName
  flawIf !(accessibility.contains name)
  return true

def memberKey : Rule source Key := do
  match ← token with
  | .privateName name =>
    skip
    flawIf (name == "constructor")
    return .privateName name
  | _ => key go

def isPrivate : Key → Bool
  | .privateName _ => true
  | _ => false

def field (m : Nat) (k : Key) (mods : Modifiers) (optional : Bool) : Rule source Member := do
  guard !k.isConstructor
  flawIf (isPrivate k && (mods.accessible || mods.declared || mods.abstract))
  if (← isTyped) && !optional then let _ ← eatSign "!"
  if ← isTyped <&&> eatSign ":" then
    let t ← mark
    go .type
    gather t .type
  within (fun c => { admitsIn c with
      inField := true, inReceiver := true, inAsync := false, inGenerator := false }) do
    if ← eatSign "=" then
      flawIf mods.abstract
      go .assignment
  flawIf !(← eatStatementEnd)
  gather m .field
  return if mods.abstract then .abstract else .other

def memberTail (m : Nat) (k : Key) (mods : Modifiers) (tail : Rule source Bool) : Rule source Member := do
  let hasBody ← tail
  flawIf (isPrivate k && mods.accessible)
  flawIf (mods.abstract && hasBody && !isPrivate k)
  gather m .method
  return if mods.abstract && !isPrivate k then .abstract else .other

def plainTail : Rule source Bool := uncheckedTail go false false

/-- A constructor parameter; access words before it make it a field too. -/
def constructorParameter : Rule source Unit := do
  let access ← eatAccessibility
  let overriding ← eatModifier "override"
  let readonly ← eatModifier "readonly"
  plainParameter go
  if access || overriding || readonly then
    let p ← newest
    guard (p.boundName?.isSome || p.is .defaulted)
    gather ((← mark) - 1) .field

def constructorTail (m : Nat) (mods : Modifiers) : Rule source Member := do
  forget m
  let hasBody ← within (inTail false false) do
    flawIf ((← isTyped) && (← isOpenAngle))
    typeParameters go false true
    within inParameterList (parameters go true (constructorParameter go))
    let ps ← newest
    flawIf ((← isTyped) && (← isSign ":"))
    resultType go
    let hasBody ← bodyAfter go ps
    flawIf (!hasBody && ps.children.any fun p => p.children.any (·.is .field))
    pure hasBody
  flawIf (mods.fixed || mods.abstract || mods.overriding)
  gather m .method
  return if hasBody then .constructor else .other

def keyedMember (m : Nat) (mods : Modifiers) : Rule source Member := do
  if ← eatSign "*" then
    let k ← memberKey go
    flawIf (mods.readonly || k.isConstructor)
    return ← memberTail m k mods (uncheckedTail go false true)
  let bare := mods.readonly && ((← isSign "!") || (← isSign ":"))
  let k ← if bare then pure (Key.name "readonly") else memberKey go
  let optional ← isTyped <&&> eatSign "?"
  if ← isMethodStart then
    flawIf mods.declared
    guard !mods.readonly
    if k.isConstructor then return ← constructorTail go m mods
    return ← memberTail m k mods (plainTail go)
  let starNext := (← newline) && (← isSign "*")
  let access := (k.isName "get" || k.isName "set") && !(← isFieldStart false) && !starNext
  if !access && (← isFieldStart true) then return ← field go m k mods optional
  if k.isName "async" && !(← newline) then
    flawIf (← eatModifier "override")
    let generator ← eatSign "*"
    let inner ← memberKey go
    guard !inner.isConstructor
    flawIf mods.readonly
    if ← isTyped then let _ ← eatSign "?"
    return ← memberTail m inner mods (uncheckedTail go true generator)
  guard access
  let inner ← memberKey go
  flawIf (mods.readonly || inner.isConstructor)
  memberTail m inner mods (functionTail go false false (if k.isName "get" then checkReader else checkWriter))

def lateModifiers : (fuel : Nat) → Modifiers → Rule source Modifiers
  | 0, _ => failure
  | fuel + 1, mods => do
    if ← eatModifier "abstract" then
      flawIf (mods.abstract || mods.overriding || mods.readonly)
      lateModifiers fuel { mods with abstract := true }
    else if ← eatModifier "override" then
      flawIf (mods.overriding || mods.readonly || mods.declared || !(← read).hasHeritage)
      lateModifiers fuel { mods with overriding := true }
    else if ← eatModifier "readonly" then
      flawIf mods.readonly
      lateModifiers fuel { mods with readonly := true }
    else if (← isWord "static") && (← following).1 == .sign "\x7b" then return mods
    else if ← eatModifier "static" then
      flawIf mods.overriding
      lateModifiers fuel { mods with fixed := true }
    else return mods

def wordMember (m : Nat) (name : String) (mods : Modifiers) (byLine : Bool) :
    Rule source (Option Member) := do
  if ← isMethodStart then return some (← memberTail m (.name name) mods (plainTail go))
  if (← isFieldStart byLine) || ((← isTyped) && (← isSign "?")) then
    let optional ← eatSign "?"
    return some (← field go m (.name name) mods optional)
  return none

/-- A block that runs with the class; like an index signature it keeps no decorators, which stand since `m`. -/
def staticBlock (m : Nat) : Rule source Member := do
  forget m
  within (fun c => { detached c with
      inStaticBlock := true, inField := true, inReceiver := true, inFunction := false, atTop := false,
      canBreak := false, canContinue := false, labels := [] }) (statements go)
  gather m .staticBlock
  return .other

def memberAfterModifiers (m : Nat) (mods : Modifiers) (accessor : Bool) : Rule source Member := do
  let late ← lateModifiers (← read).bound mods
  unless accessor || late.readonly do
    if ← isTyped then let _ ← eatWord "accessor"
  if late.fixed && (← isSign "\x7b") then
    flawIf (late.accessible || late.declared)
    staticBlock go m
  else if (← isWord "static") && (← following).1 == .sign "\x7b" then
    flawIf (late.fixed || late.abstract || late.overriding || late.readonly)
    skip
    staticBlock go m
  else if (← isTyped) && !late.abstract && !late.overriding && !late.accessible && (← isIndexStart) then
    forget m
    indexSignature go
    gather m .type
    return .other
  else keyedMember go m late

def classMember : Rule source Member := do
  let m ← mark
  decorators go
  let declared ← isTyped <&&> eatWord "declare"
  if declared then
    if let some member ← wordMember go m "declare" {} true then return member
  let accessible ← eatAccessibility
  let declared ← if declared then pure true else eatModifier "declare"
  let fixed ← eatWord "static"
  let mods : Modifiers := { declared, accessible, fixed }
  if fixed then
    if let some member ← wordMember go m "static" { mods with fixed := false } false then return member
  let accessor ← isTyped <&&> eatWord "accessor"
  if accessor then
    if let some member ← wordMember go m "accessor" mods true then return member
  memberAfterModifiers go m mods accessor

def classMembers (abstract : Bool) : (fuel : Nat) → (constructed : Bool) → Rule source Unit
  | 0, _ => failure
  | fuel + 1, constructed => do
    if ← eatSign "\x7d" then return ()
    if ← eatSign ";" then classMembers abstract fuel constructed
    else
      let member ← classMember go
      flawIf (member == .abstract && !abstract)
      let constructs := member == .constructor && !(← read).ambient
      flawIf (constructs && constructed)
      classMembers abstract fuel (constructed || constructs)

def classFrom (abstract named : Bool) (m : Nat) : Rule source Unit := do
  expectWord "class"
  let nameless ← match ← token with
    | .word "extends" _ => pure true
    | .word "implements" _ => isTyped
    | .word "this" _ => pure !named
    | .word _ _ => pure false
    | _ => pure true
  guard !(named && nameless)
  unless nameless do
    let name ← declaredName
    flawIf ((← isTyped) && builtInTypes.contains name)
  typeParameters go true true
  let derived ← eatWord "extends"
  if derived then heritage go
  if ← isTyped then
    if ← pure derived <&&> eatSign "," then
      delimited (return (← isSign "\x7b") || (← isWord "implements")) (do flaw; interfaceName go)
    if ← eatWord "implements" then implemented go
  expectSign "\x7b"
  let b ← mark
  within (fun c => { c with inForHead := false, hasHeritage := derived }) do
    classMembers go abstract (← read).bound false
  gather b .classBody
  gather m .class

def plainClass : Nat → Rule source Unit := classFrom go false false

end Rule

end Gloss.Script
