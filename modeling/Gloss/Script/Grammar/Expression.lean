import Gloss.Script.Grammar.Function

namespace Gloss.Script.Rule

variable {source : List Char} (go : Goal → Rule source Unit)

/-! ### Lists -/

def spreadOr (item : Rule source Unit) : Rule source Unit := do
  let m ← mark
  if ← eatSign "..." then
    go .assignment
    gather m .spread
  else item

def arguments : Rule source Unit := do
  let m ← mark
  expectSign "("
  within enclosed do
    let _ ← listUntil ")" (spreadOr go (go .assignment))
  gather m .arguments

def arrayLiteral : Rule source Unit := do
  let m ← mark
  expectSign "["
  within enclosed do
    loop do
      if ← eatSign "]" then return false
      if ← eatSign "," then
        leaf .hole
        return true
      spreadOr go (go .assignment)
      unless ← isSign "]" do
        expectSign ","
        if ← isSign "]" then leaf .trailingComma
      return true
  gather m .array

def method (m : Nat) (async generator : Bool) : Rule source Unit := do
  let _ ← uncheckedTail go async generator
  gather m .method

/-- A reader or writer in an object, which has no decorators and no type parameters of its own; a reader has no
parameters, and a writer has no return type. -/
def accessor (m : Nat) (reads : Bool) : Rule source Unit := do
  within (inTail false false) do
    let p ← mark
    typeParameters go false true
    forget p
    within inParameterList (parameters go false (plainParameter go))
    let ps ← newest
    if reads then
      checkReader ps
      forget p
    else checkWriter ps
    let t ← mark
    resultType go
    unless reads do forget t
    let _ ← bodyAfter go ps
  gather m .accessor

def property : Rule source Unit := do
  let m ← mark
  if ← eatSign "..." then
    go .assignment
    gather m .spread
  else if ← eatSign "*" then
    let _ ← key go
    method go m false true
  else
    let access ← eatAccessWord
    let k ← key go
    if ← eatSign ":" then
      go .assignment
      gather m .property
    else if (← isSign "(") || ((← isTyped) && (← isOpenAngle)) then method go m false false
    else
      match k with
      | .name name =>
        flawIf (← eatSign "?")
        if (← isSign "=") || (← isSign ",") || (← isSign "\x7d") then
          flawIf (name == "arguments" && (← read).inField)
          leaveName name
          if ← eatSign "=" then
            go .assignment
            gather m .coverDefault
          else gather m .shorthand
        else
          flawIf access
          if name == "get" || name == "set" then
            let _ ← key go
            accessor go m (name == "get")
          else if name == "async" then
            let generator ← eatSign "*"
            let _ ← key go
            method go m true generator
          else failure
      | _ => failure

def objectLiteral : Rule source Unit := do
  let m ← mark
  expectSign "\x7b"
  within enclosed do
    if ← listUntil "\x7d" (property go) then leaf .trailingComma
  gather m .object

/-! ### Literals with a lexical structure of their own -/

def patternLiteral : Rule source Unit := do
  let cs := (← get).ahead.start.rest.drop 1
  match Token.pattern false cs with
  | none => failure
  | some n =>
    let flags := (cs.drop n).takeWhile isWordPart
    guard (((cs.drop n).drop flags.length).head? != some '\\')
    flawIf !(Token.areFlags flags)
    skipTo (1 + n + flags.length)
    leaf .pattern

def template (tagged : Bool) : Rule source Unit := do
  let m ← mark
  loop do
    match Token.chunk 0 0 true (← get).ahead.stop.rest with
    | none => failure
    | some chunk =>
      flawIf (!tagged && !chunk.cooked)
      skipTo (1 + chunk.length)
      unless chunk.opens do return false
      within enclosed (go .expression)
      guard (← isSign "\x7d")
      return true
  gather m .template

/-! ### Assignments -/

def compoundSigns : List String :=
  ["+=", "-=", "*=", "/=", "%=", "**=", "<<=", ">>=", ">>>=", "&=", "|=", "^=", "&&=", "||=", "??="]

def finishAssignment (m : Nat) : Rule source Unit := do
  match ← token with
  | .sign s =>
    if s == "=" then
      retarget .assignment .whole
      skip
      go .assignment
      gather m .assignment
    else if compoundSigns.contains s then
      flawIf !(← newest).isPlace
      skip
      go .assignment
      gather m .compound
  | _ => pure ()

def branches (m : Nat) : Rule source Unit := do
  expectSign "?"
  within ({ admitsIn · with inBranch := true, colonAhead := true }) (go .assignment)
  expectSign ":"
  within ({ · with inBranch := true, colonAhead := false }) (go .assignment)
  gather m .conditional

/-! ### Arrow functions -/

def arrowSign : Rule source Unit := do
  guard !(← newline)
  expectSign "=>"

def isOptionalMark : Rule source Bool := do
  unless ← isSign "?" do return false
  return match (← following).1 with
    | .sign s => [",", ":", ")", "="].contains s
    | _ => false

/-- With types, an item in brackets that begins with a name may turn out to be an optional parameter, so no
conditional is read at first. -/
def bracketOperand (spread : Bool) (m : Nat) : Rule source Unit := do
  if (← isTyped) && (← isReference) then
    go (.binary 0 true)
    unless (← newestIs .arrow) || spread do finishAssignment go m
  else go .assignment

def bracketItem : Rule source Bool := do
  flawIf (← eatAccessWord)
  let m ← mark
  let spread ← eatSign "..."
  let e ← mark
  bracketOperand go spread e
  let optional := (← isTyped) && (← isOptionalMark)
  if optional then
    flawIf spread
    guard (← newest).name?.isSome
    skip
  else if (← isTyped) && (← isSign "?") && !spread then branches go e
  if optional || ((← isTyped) && (← isSign ":")) then
    retarget .binding .element
    guard !(← newestIs .defaulted)
    annotation go e
    if spread then gather m .rest
    else if ← eatSign "=" then
      go .assignment
      gather m .defaulted
    return true
  if spread then gather m .spread
  return false

/-- Items up to the closing bracket. Says whether one can only be a parameter and whether a comma comes last. -/
def bracketItems : (fuel : Nat) → (typed comma : Bool) → Rule source (Bool × Bool)
  | 0, _, _ => failure
  | fuel + 1, typed, comma => do
    if ← eatSign ")" then return (typed, comma)
    let typed := (← bracketItem go) || typed
    if ← eatSign ")" then return (typed, false)
    expectSign ","
    bracketItems fuel typed true

def asParameters (m : Nat) (comma : Bool) : Rule source Tree := do
  gather m .parameters
  flawIf (comma && (← newest).children.getLast?.any fun t => t.is .spread || t.is .rest)
  retarget .binding .whole
  newest

def level? : Token → Option Nat
  | .sign "??" | .sign "||" => some 1
  | .sign "&&" => some 2
  | .sign "|" => some 3
  | .sign "^" => some 4
  | .sign "&" => some 5
  | .sign "==" | .sign "!=" | .sign "===" | .sign "!==" => some 6
  | .sign "<" | .sign ">" | .sign "<=" | .sign ">=" | .word "in" false | .word "instanceof" false =>
    some 7
  | .sign "<<" | .sign ">>" | .sign ">>>" => some 8
  | .sign "+" | .sign "-" => some 9
  | .sign "*" | .sign "/" | .sign "%" => some 10
  | .sign "**" => some 11
  | _ => none

/-- An arrow function in a branch of a conditional, where a colon comes next. The mistakes in it do not count. -/
def branchArrow (async : Bool) (m : Nat) (comma : Bool) : Rule source Unit := do
  let ps ← asParameters m comma
  resultType go
  expectSign "=>"
  arrowBody go async m ps
  guard (!(← read).colonAhead || (← isSign ":"))

def bracketArrow (async returns : Bool) (m : Nat) (comma : Bool) : Rule source Unit := do
  let ps ← asParameters m comma
  if returns then within ({ · with lenient := true }) (resultType go)
  arrowSign
  let block ← isSign "\x7b"
  arrowBody go async m ps
  flawIf (block && (level? (← token)).isSome)

def bracketValue (async : Bool) (m : Nat) : Rule source Unit := do
  let items := (← get).forest.take ((← mark) - m)
  flawIf (items.any Tree.isCover)
  if async then
    gather m .arguments
    leaveNameAt m "async"
    gather m .call
  else
    guard (!items.isEmpty && !items.any (·.is .spread))
    if items.length > 1 then gather m .sequence
    gather m .paren

/-- A bracketed expression or an arrow function; after the word `async`, a call or an arrow function. -/
def bracketOrArrow (canArrow async : Bool) : Rule source Unit := do
  let m ← mark
  expectSign "("
  let (typed, comma) ← within enclosed do bracketItems go (← read).bound false false
  let c ← read
  let annotated := (← isTyped) && (← isSign ":")
  let arrow ← if annotated && c.inBranch then tentative (branchArrow go async m comma) else pure none
  if arrow.isNone then
    let returns ← if annotated && !c.colonAhead then foresee (do resultType go; isSign "=>") else pure false
    if typed || returns || (← isSign "=>") then
      guard canArrow
      bracketArrow go async returns m comma
    else bracketValue async m

def nameArrow (async : Bool) (m : Nat) : Rule source Unit := do
  let ps ← asParameters m false
  if async then expectSign "=>" else arrowSign
  arrowBody go async m ps

def genericArrow (arrow : Rule source Unit) : Rule source Unit := do
  let m ← mark
  typeParameters go false true
  arrow
  guard (← newestIs .arrow)
  absorb m

def asyncGenericArrow : Rule source Unit := do
  expectWord "async"
  genericArrow go do
    let m ← mark
    parameters go false (plainParameter go)
    let ps ← newest
    resultType go
    expectSign "=>"
    arrowBody go true m ps

def opensTypeParameters : Rule source Bool := do
  if ← hasElements then
    foresee do
      openAngle
      let _ ← eatWord "const"
      let _ ← identifierName
      if (← isSign ",") || (← isSign "=") then return true
      expectWord "extends"
      return !(← isSign "=") && !(← isSign ">") && !(← isSign "/")
  else
    foresee do
      openAngle
      isAnyWord

/-! ### Operands -/

def startsWordArrow : Rule source Bool := do
  match ← token with
  | .word name _ => return !isKeyword name && (name != "as" || (← following).1 == .sign "=>")
  | _ => return false

def nameOrArrow (canArrow : Bool) : Rule source Unit := do
  let m ← mark
  let plain := match ← token with
    | .word "async" escaped => !escaped
    | _ => false
  let context ← read
  if canArrow && plain && !(← following).2 then
    let isHeadOf := context.inForHead && (← following).1 == .word "of" false
    let arrow ← foresee do
      skip
      unless ← startsWordArrow do return false
      return !isHeadOf || (← following).1 == .sign "=>"
    if arrow then
      skip
      leaveName (← declaredName)
      nameArrow go true m
      return ()
    flawIf (isHeadOf && !context.inForAwaitHead)
  reference
  if canArrow && !(← newline) && (← isSign "=>") then nameArrow go false m

def newExpression : Rule source Unit := do
  let m ← mark
  expectWord "new"
  if ← eatSign "." then
    expectWord "target"
    let c ← read
    flawIf !(c.inReceiver || c.inField || c.inStaticBlock)
    leaf .metaProperty
  else
    go .callee
    let callee ← newest
    guard !(callee.is .optionalMember || callee.is .optionalCall || callee.is .importRef)
    if (← isTyped) && (← isOpenAngle) then
      let _ ← tentative do
        operandTypeArguments go
        guard (← isSign "(")
    if ← isSign "(" then arguments go
    gather m .new

def importExpression : Rule source Unit := do
  expectWord "import"
  if ← eatSign "." then
    if ← eatWord "meta" then leaf .metaProperty
    else
      guard (← eatWord "defer" <||> eatWord "source")
      guard (← isSign "(")
      leaf .importRef
  else
    guard (← isSign "(")
    leaf .importRef

def superExpression : Rule source Unit := do
  expectWord "super"
  guard ((← isSign "(") || (← isSign ".") || (← isSign "["))
  leaf .superRef

def privateReference : Rule source Unit := do
  if ← eatSign "#" then guard (← isAnyWord)
  skip
  leaf .privateName

/-- Decorators belong to the class that follows; those before a name are dropped. -/
def decorated (classFrom : Nat → Rule source Unit) : Rule source Unit := do
  let m ← mark
  decorators go
  if ← isWord "class" then classFrom m
  else
    forget m
    match ← token with
    | .privateName _ | .sign "#" => privateReference
    | _ => reference

def primary (canArrow : Bool) (classFrom : Nat → Rule source Unit) : Rule source Unit := do
  match ← token with
  | .text _ => text
  | .number | .bigNumber => skip; leaf .value
  | .privateName _ | .sign "#" => privateReference
  | .sign "(" => bracketOrArrow go canArrow false
  | .sign "[" => arrayLiteral go
  | .sign "\x7b" => objectLiteral go
  | .sign "\x60" => template go false
  | .sign "/" | .sign "/=" => patternLiteral
  | .sign "@" => decorated go classFrom
  | .word "class" false => classFrom (← mark)
  | .word "function" false => functionExpression go false
  | .word "this" false => skip; leaf .this
  | .word "null" false | .word "true" false | .word "false" false => skip; leaf .value
  | .word "new" false => newExpression go
  | .word "import" false => importExpression
  | .word "super" false => superExpression
  | .word "async" false =>
    let next ← following
    if next == (.word "function" false, false) then
      skip
      functionExpression go true
    else
      if canArrow && (← isTyped) && next.1 == .sign "<" then
        if (← tentative (asyncGenericArrow go)).isSome then return ()
      if canArrow && next == (.sign "(", false) then
        skip
        bracketOrArrow go canArrow true
      else nameOrArrow go canArrow
  | _ => nameOrArrow go canArrow

/-! ### Members and calls -/

def memberName : Rule source Unit := do
  match ← token with
  | .word _ _ | .privateName _ => skip
  | _ => failure

def endsInstantiation : Rule source Bool := do
  let t ← token
  match t with
  | .privateName _ | .sign "#" => return (← newline)
  | .sign s => if ["(", "\x60", "<", ">", "+", "-"].contains s then return false
  | .word "as" false | .word "satisfies" false => return true
  | _ => pure ()
  return (← newline) || (level? t).isSome || !startsExpression t

def typedCall (noCall chain : Bool) (m : Nat) : Rule source Unit := do
  operandTypeArguments go
  if !noCall && (← isSign "(") then
    arguments go
    gather m (if chain then .optionalCall else .call)
  else
    guard (← isSign "\x60")
    template go true
    gather m .taggedTemplate

def computedMember : Rule source Unit := do
  expectSign "["
  within admitsIn (go .expression)
  expectSign "]"

def subscript (noCall noComputed : Bool) (m : Nat) : Rule source Bool := do
  let operand ← newest
  let bare := operand.is .optionalMember || operand.is .chainedMember || operand.is .optionalCall
  let chain := bare || operand.is .optionalNonNull
  let memberKind := if chain then Kind.chainedMember else .member
  if operand.is .importRef then
    guard (!noCall && (← isSign "("))
    arguments go
    gather m .call
    return true
  match ← token with
  | .sign "!" =>
    unless (← isTyped) && !(← newline) do return false
    skip
    gather m (if chain then .optionalNonNull else .nonNull)
    return true
  | .sign "?." =>
    guard !operand.is .superRef
    skip
    match ← token with
    | .sign "[" => computedMember go; gather m .optionalMember
    | .sign "(" => arguments go; gather m .optionalCall
    | .sign "<" =>
      guard (← isTyped)
      typeArguments go
      arguments go
      gather m .optionalCall
    | _ => memberName; gather m .optionalMember
    return true
  | .sign "." =>
    skip
    guard (!operand.is .superRef || (← isAnyWord))
    memberName
    gather m memberKind
    return true
  | .sign "[" =>
    if noComputed then return false
    computedMember go
    gather m memberKind
    return true
  | .sign "(" =>
    if noCall then
      guard !operand.is .superRef
      return false
    arguments go
    gather m (if chain then .optionalCall else .call)
    return true
  | .sign "\x60" =>
    guard !bare
    template go true
    gather m .taggedTemplate
    return true
  | .sign s =>
    unless (← isTyped) && s.startsWith "<" && !operand.is .superRef do return false
    if (← tentative (typedCall go noCall chain m)).isSome then return true
    let instantiated ← tentative do
      operandTypeArguments go
      guard (← endsInstantiation)
    if instantiated.isSome then
      gather m .instantiation
      return true
    return false
  | _ => return false

def subscripts (noCall noComputed : Bool) (m : Nat) : Rule source Unit :=
  loop (subscript go noCall noComputed m)

def callee (classFrom : Nat → Rule source Unit) : Rule source Unit := do
  let m ← mark
  primary go false classFrom
  subscripts go true false m

def leftHandSide (canArrow : Bool) (classFrom : Nat → Rule source Unit) : Rule source Unit := do
  if (← hasElements) && (← isSign "<") then go .element
  else
    let m ← mark
    primary go canArrow classFrom
    unless canArrow && (← newestIs .arrow) do subscripts go false false m

def decorator : Rule source Unit := do
  expectSign "@"
  let m ← mark
  if ← eatSign "(" then
    within detached (go .expression)
    expectSign ")"
  else
    if ← eatWord "this" then leaf .this else reference
    subscripts go false true m
  let typed := (← isTyped) && (← isSign "<")
  if typed then typeArguments go
  if typed || (← isSign "(") then
    arguments go
    gather m .call

/-! ### Operators -/

def awaitExpression : Rule source Unit := do
  let m ← mark
  let c ← read
  expectWord "await"
  guard (c.inAsync || !(← newline))
  flawIf (c.inParameters || (c.inFunction && !c.inAsync))
  go .unary
  gather m .await

def unary (canArrow : Bool) (classFrom : Nat → Rule source Unit) : Rule source Unit := do
  let m ← mark
  match ← token with
  | .sign "++" | .sign "--" =>
    skip
    go .unary
    flawIf !(← newest).isPlace
    gather m .update
  | .sign "+" | .sign "-" | .sign "~" | .sign "!" | .word "delete" false | .word "void" false
  | .word "typeof" false =>
    skip
    go .unary
    gather m .unary
  | .word "await" false => awaitExpression go
  | t =>
    if (t == .sign "<" || t == .sign "<<") && (← isTyped) && !(← hasElements) then
      openAngle
      let constant ← foresee (do expectWord "const"; isCloseAngle)
      if constant then skip
      else
        let t ← mark
        go .type
        gather t .type
      closeAngle
      go .unary
      gather m (if constant then .constant else .assertion)
    else
      leftHandSide go canArrow classFrom
      unless (← newestIs .arrow) || (← newline) do
        if (← isSign "++") || (← isSign "--") then
          flawIf !(← newest).isPlace
          skip
          gather m .update

def operatorKind : Token → Kind
  | .sign "??" => .coalescing
  | .sign "||" | .sign "&&" => .logical
  | _ => .binary

/-- `??` never meets `||` or `&&` without brackets. -/
def mixes (kind : Kind) (left right : Tree) : Bool :=
  match kind with
  | .coalescing => left.is .logical || right.is .logical
  | .logical => left.is .coalescing || right.is .coalescing
  | _ => false

def operation (level m : Nat) : Rule source Bool := do
  let t ← token
  if (← isTyped) && level < 7 && !(← newline)
      && (t == .word "as" false || t == .word "satisfies" false) then
    skip
    if ← pure (t == .word "as" false) <&&> eatWord "const" then gather m .constant
    else
      let s ← mark
      go .type
      gather s .type
      gather m (if t == .word "as" false then .typed else .assertion)
    return true
  if t == .word "in" false && (← read).withoutIn then return false
  match level? t with
  | none => return false
  | some n =>
    unless level < n do return false
    skip
    let left ← newest
    guard !(t == .sign "**" && (left.is .unary || left.is .await))
    go (.binary (if t == .sign "**" then n - 1 else n) false)
    let kind := operatorKind t
    flawIf (mixes kind left (← newest))
    gather m kind
    return true

def operations (level m : Nat) : Rule source Unit := loop (operation go level m)

def binary (level : Nat) (canArrow : Bool) (classFrom : Nat → Rule source Unit) : Rule source Unit := do
  let m ← mark
  unary go canArrow classFrom
  unless canArrow && (← newestIs .arrow) do operations go level m

def conditional (classFrom : Nat → Rule source Unit) : Rule source Unit := do
  let m ← mark
  binary go 0 true classFrom
  unless ← newestIs .arrow do
    if ← isSign "?" then branches go m

def yieldExpression : Rule source Unit := do
  let m ← mark
  expectWord "yield"
  guard !(← read).inParameters
  unless ← newline do
    if ← eatSign "*" then go .assignment
    else if startsExpression (← token) then go .assignment
  gather m .yield

def plainAssignment (classFrom : Nat → Rule source Unit) : Rule source Unit := do
  if (← read).inGenerator && (← isWord "yield") then yieldExpression go
  else
    let m ← mark
    conditional go classFrom
    unless ← newestIs .arrow do finishAssignment go m

def assignment (classFrom : Nat → Rule source Unit) : Rule source Unit := do
  let arrow ← if (← isTyped) && (← isOpenAngle) && (← opensTypeParameters) then
      tentative (genericArrow go (plainAssignment go classFrom))
    else pure none
  if arrow.isNone then plainAssignment go classFrom

def expression : Rule source Unit := do
  let m ← mark
  go .assignment
  if ← isSign "," then
    loop do
      unless ← eatSign "," do return false
      go .assignment
      return true
    gather m .sequence

end Gloss.Script.Rule
