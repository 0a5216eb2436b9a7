import Gloss.Script.Grammar.Class

namespace Gloss.Script.Rule

variable {source : List Char} (go : Goal → Rule source Unit)

def nested (c : Context) : Context := { detached c with atTop := false }

def inLoop (c : Context) : Context := { nested c with canBreak := true, canContinue := true }

def bracketed : Rule source Unit := do
  expectSign "("
  within enclosed (go .expression)
  expectSign ")"

def block : Rule source Unit := do
  let m ← mark
  within nested (statements go)
  gather m .block

/-! ### Variables -/

def declarator (constant inHead : Bool) : Rule source Unit := do
  let m ← mark
  go .target
  let plain := (← newest).name?.isSome
  if ← isTyped then
    if plain then let _ ← eatSign "!"
    else if (← read).ambient then let _ ← eatSign "?"
  annotation go m
  unless inHead && ((← isWord "of") || (← isWord "in")) do
    if ← eatSign "=" then go .assignment
    else unless (← read).ambient do
      if constant && !inHead then flaw else guard plain
  gather m .declarator

def declarators (constant inHead : Bool) : Rule source Unit := do
  let m ← mark
  loop do
    declarator go constant inHead
    unless ← eatSign "," do return false
    if ← isSign ";" then
      flaw
      return false
    return true
  gather m .declaration

def variableStatement (constant : Bool) : Rule source Unit := do
  within enclosed (declarators go constant false)
  endStatement

def startsResources : Rule source Bool := foresee do
  expectWord "using"
  return !(← newline) && (← isReference)

def startsAwaitedResources : Rule source Bool := foresee do
  expectWord "await"
  startsResources

def startsAwaitedUsing : Rule source Bool := foresee do
  expectWord "await"
  isWord "using"

/-- An expression that begins with `await using`, after which nothing has to end the statement. -/
def awaitedUsing : Rule source Unit := do
  let m ← mark
  within detached do
    go .unary
    operations go 0 m
  let _ ← eatStatementEnd
  gather m .expressionStatement

def resources : Rule source Unit := do
  flawIf !(← isTyped)
  let _ ← eatWord "await"
  expectWord "using"
  within detached do
    declarators go false false
    flawIf ((← newest).children.any fun d =>
      d.children.length < 2 || !(d.children.head?.bind Tree.boundName?).isSome)
  endStatement

/-! ### Loops -/

def loopBody : Rule source Unit := within inLoop (go (.statement false))

/-- Says whether the loop runs over values. -/
def forEachTail : Rule source Bool := do
  if ← eatWord "of" then
    within enclosed (go .assignment)
    return true
  expectWord "in"
  within enclosed (go .expression)
  return false

/-- After the first part of a loop over none. The second semicolon may be missing after a test. -/
def forClassicTail : Rule source Bool := do
  expectSign ";"
  unless ← eatSign ";" do
    within enclosed (go .expression)
    let _ ← eatSign ";"
  unless ← isSign ")" do within enclosed (go .expression)
  return false

def isForEach : Rule source Bool := return (← isWord "of") || (← isWord "in")

def forVariables (word : String) : Rule source Bool := do
  skip
  guard !(word == "let" && (← isWord "this"))
  within ({ · with withoutIn := word == "var" }) (declarators go (word == "const") true)
  if ← isForEach then
    let ds := (← newest).children
    flawIf (ds.length != 1)
    flawIf (ds.any fun d => d.children.length != 1 || d.children.any (·.is .annotated))
    forEachTail go
  else forClassicTail go

def isUsing : Tree → Bool
  | .word name => name == "using"
  | .node .await [.word name] => name == "using"
  | _ => false

def isForEachName : Rule source Bool := foresee do
  guard !(← isWord "of")
  let _ ← identifierName
  isForEach

def forExpression : Rule source Bool := do
  let m ← mark
  within ({ · with withoutIn := true, inForHead := true }) (go .expression)
  if ← pure (isUsing (← newest)) <&&> isForEachName then
    flawIf !(← isTyped)
    forget m
    leaveName (← declaredName)
    gather m .declaration
    flawIf (← isWord "in")
    forEachTail go
  else if ← isForEach then
    guard !((← newest).is .assignment)
    retarget .assignment .whole
    let t ← newest
    flawIf ((← isTyped) && (← isWord "in") && (t.is .arrayPattern || t.is .objectPattern))
    forEachTail go
  else forClassicTail go

def forHead : Rule source Bool := do
  match ← token with
  | .word "var" false => forVariables go "var"
  | .word "const" false => forVariables go "const"
  | .word "let" false => forVariables go "let"
  | .sign ";" => forClassicTail go
  | _ => forExpression go

def forStatement : Rule source Unit := do
  let m ← mark
  expectWord "for"
  let awaits ← eatWord "await"
  expectSign "("
  let each ← within (fun c => { enclosed c with inForAwaitHead := awaits }) (forHead go)
  guard (each || !awaits)
  expectSign ")"
  loopBody go
  gather m .control

def whileStatement : Rule source Unit := do
  let m ← mark
  expectWord "while"
  bracketed go
  loopBody go
  gather m .control

def doStatement : Rule source Unit := do
  let m ← mark
  expectWord "do"
  loopBody go
  expectWord "while"
  let t ← mark
  bracketed go
  gather t .test
  let _ ← eatStatementEnd
  gather m .doWhile

/-! ### Choices and jumps -/

def ifStatement : Rule source Unit := do
  let m ← mark
  expectWord "if"
  bracketed go
  within nested (go (.statement false))
  if ← eatWord "else" then within nested (go (.statement false))
  gather m .control

def switchCases : (fuel : Nat) → (defaulted : Bool) → Rule source Unit
  | 0, _ => failure
  | fuel + 1, defaulted => do
    unless ← eatSign "\x7d" do
      let m ← mark
      let default ← isWord "default"
      if default then
        guard !defaulted
        skip
      else
        expectWord "case"
        within enclosed (go .expression)
      expectSign ":"
      loop do
        if (← isWord "case") || (← isWord "default") || (← isSign "\x7d") then return false
        go (.statement true)
        return true
      gather m .switchCase
      switchCases fuel (defaulted || default)

def switchStatement : Rule source Unit := do
  let m ← mark
  expectWord "switch"
  bracketed go
  expectSign "\x7b"
  within (fun c => { nested c with canBreak := true }) do
    switchCases go (← read).bound false
  gather m .control

def tryStatement : Rule source Unit := do
  let m ← mark
  expectWord "try"
  block go
  let handled ← isWord "catch"
  if handled then
    let h ← mark
    skip
    if ← eatSign "(" then
      let p ← mark
      go .target
      annotation go p
      expectSign ")"
    block go
    gather h .handler
  let finished ← eatWord "finally"
  if finished then block go
  flawIf (!handled && !finished)
  gather m .control

def jumpStatement : Rule source Unit := do
  let breaks ← isWord "break"
  skip
  let c ← read
  if ← eatStatementEnd then flawIf !(if breaks then c.canBreak else c.canContinue)
  else
    let label ← identifierName
    flawIf (!c.labels.contains label || (!breaks && !c.canContinue))
    endStatement
  leaf .control

def returnStatement : Rule source Unit := do
  let m ← mark
  skip
  flawIf !(← read).inFunction
  unless ← isStatementEnd do within enclosed (go .expression)
  endStatement
  gather m .control

def throwStatement : Rule source Unit := do
  let m ← mark
  skip
  guard !(← newline)
  within enclosed (go .expression)
  endStatement
  gather m .control

def labelledStatement (m : Nat) (label : String) : Rule source Unit := do
  let labels := (← read).labels
  flawIf (labels.contains label)
  within (fun c => { nested c with labels := label :: c.labels, canBreak := true }) do
    flawIf (← isWord "function")
    go (.statement false)
  gather m .labelled

/-! ### Typed declarations -/

def enumKey : Rule source Unit := do
  match ← token with
  | .text _ | .word _ _ => skip
  | .number => flaw; skip
  | _ =>
    let m ← mark
    expectSign "["
    within detached (go .expression)
    flawIf <| match ← newest with
      | .text _ | .node .template [] => false
      | _ => true
    expectSign "]"
    forget m

def enumMember : Rule source Unit := do
  enumKey go
  if ← eatSign "=" then
    within detached (go .assignment)
    unless ← eatSign "," do flawIf !(← isSign "\x7d")
  else unless ← eatSign "," do
    unless ← isSign "\x7d" do
      flaw
      skip
      skip

def enumeration (m : Nat) : Rule source Unit := do
  let _ ← identifierName
  expectSign "\x7b"
  loop do
    if ← eatSign "\x7d" then return false
    enumMember go
    return true
  gather m .enumeration

def interface (m : Nat) : Rule source Unit := do
  let name ← identifierName
  flawIf (builtInTypes.contains name)
  typeParameters go true false
  if ← eatWord "extends" then interfaceNames go
  membersType go
  gather m .type

def typeAlias (m : Nat) : Rule source Unit := do
  let _ ← identifierName
  typeParameters go true false
  expectSign "="
  go .type
  endStatement
  gather m .type

def namespaceBody (m : Nat) : Rule source Unit := do
  within (fun c => { detached c with atTop := true }) (statements go)
  gather m .namespaced

def ambientModule (m : Nat) : Rule source Unit := do
  skip
  if ← isSign "\x7b" then namespaceBody go m
  else
    endStatement
    gather m .namespaced

def namespaced (m : Nat) : Rule source Unit := do
  dottedName
  namespaceBody go m

def functionDeclaration (m : Nat) (async : Bool) : Rule source Unit := do
  let _ ← function go m async true

def isAsyncFunction : Rule source Bool :=
  return (← isWord "async") && (← following) == (.word "function" false, false)

def startsTyped : Rule source Bool := do
  unless ← isTyped do return false
  let (next, newline) ← following
  let (anyName, name) := match next with
    | .word name _ => (true, !isReserved name && name != "as" && name != "satisfies")
    | _ => (false, false)
  match ← token with
  | .word "abstract" false => return !newline && next == .word "class" false
  | .word "enum" false | .word "interface" false | .word "type" false => return !newline && anyName
  | .word "namespace" false => return name
  | .word "module" false =>
    return !newline && (name || match next with
      | .text _ => true
      | _ => false)
  | .word "global" false => return next == .sign "\x7b"
  | _ => return false

def announcesTyped : Rule source Bool := do
  match ← token with
  | .word "abstract" false | .word "enum" false | .word "interface" false | .word "type" false
  | .word "namespace" false => isTyped
  | .word "module" false => isTyped <&&> sameLine
  | _ => return false

/-- A declaration that begins with one of these words. Only a class keeps the decorators that stand since `m`. -/
def typedDeclaration (m : Nat) : Rule source Unit := do
  match ← token with
  | .word "abstract" _ => skip; classFrom go true true m
  | t =>
    forget m
    skip
    match t with
    | .word "enum" _ => enumeration go m
    | .word "interface" _ => interface go m
    | .word "type" _ => typeAlias go m
    | .word "module" _ => if ← isText then ambientModule go m else namespaced go m
    | .word "namespace" _ => namespaced go m
    | _ => failure

def globalDeclaration (m : Nat) : Rule source Unit := do
  forget m
  ambientModule go m

def startsAmbient : Rule source Bool := foresee do
  guard (← isTyped)
  expectWord "declare"
  match ← token with
  | .word "function" false | .word "class" false | .word "const" false | .word "var" false
  | .word "let" false | .word "global" false => return true
  | _ => announcesTyped

def isConstantEnum : Rule source Bool :=
  return (← isTyped) && (← isWord "const") && (← following).1 == .word "enum" false

def constantEnum (m : Nat) : Rule source Unit := do
  skip
  skip
  enumeration go m

def ambientDeclaration (m : Nat) : Rule source Unit := do
  expectWord "declare"
  within ({ · with ambient := true }) do
    match ← token with
    | .word "function" _ => functionDeclaration go m false
    | .word "class" _ => classFrom go false true m
    | .word "const" _ =>
      forget m
      if ← isConstantEnum then constantEnum go m
      else
        skip
        variableStatement go true
    | .word "var" _ | .word "let" _ =>
      forget m
      skip
      variableStatement go false
    | .word "global" _ => globalDeclaration go m
    | _ => typedDeclaration go m

/-! ### Statements -/

def expressionStatement : Rule source Unit := do
  let m ← mark
  within enclosed (go .expression)
  let label? := (← newest).name?
  if label?.isSome && (← isSign ":") then
    skip
    labelledStatement go m (label?.getD "")
  else
    endStatement
    gather m .expressionStatement

def plainStatement (declarations : Bool) : Rule source Unit := do
  match ← token with
  | .sign "\x7b" => block go
  | .sign ";" => skip; leaf .empty
  | .word "var" false => skip; variableStatement go false
  | .word "let" false =>
    guard declarations
    skip
    guard !(← isWord "this")
    variableStatement go false
  | .word "const" false =>
    if ← isConstantEnum then constantEnum go (← mark)
    else
      guard declarations
      skip
      variableStatement go true
  | .word "if" false => ifStatement go
  | .word "for" false => forStatement go
  | .word "while" false => whileStatement go
  | .word "do" false => doStatement go
  | .word "switch" false => switchStatement go
  | .word "try" false => tryStatement go
  | .word "return" false => returnStatement go
  | .word "throw" false => throwStatement go
  | .word "break" false | .word "continue" false => jumpStatement
  | .word "debugger" false => skip; endStatement; leaf .control
  | _ =>
    if declarations && ((← startsResources) || (← startsAwaitedResources)) then resources go
    else if declarations && (← startsAwaitedUsing) then awaitedUsing go
    else expressionStatement go

def statementAfter (m : Nat) (declarations : Bool) : Rule source Unit := do
  match ← token with
  | .word "function" false =>
    flawIf !declarations
    functionDeclaration go m false
  | .word "class" false =>
    flawIf !declarations
    classFrom go false true m
  | _ =>
    if ← isAsyncFunction then
      skip
      functionDeclaration go m true
    else if ← startsTyped then
      if ← isWord "global" then globalDeclaration go m else typedDeclaration go m
    else if ← startsAmbient then ambientDeclaration go m
    else
      forget m
      plainStatement go declarations

end Gloss.Script.Rule
