import Gloss.Script.Grammar.Element
import Gloss.Script.Grammar.Statement

namespace Gloss.Script.Rule

variable {source : List Char} (go : Goal → Rule source Unit)

/-! ### Imports -/

def quotedName : Rule source Unit := do
  guard (← isText)
  skip

def importAttributes : Rule source Unit := do
  if (← isTyped) && !(← newline) && ((← isWord "with") || (← isWord "assert")) then
    skip
    objectLiteral go

def fromClause : Rule source Unit := do
  expectWord "from"
  quotedName
  importAttributes go
  endStatement

def typeSpecifier (typeOnly : Bool) (secondName : Rule source String) : Rule source String := do
  let name ← identifierName
  if name == "as" then
    unless ← isAnyWord do
      flawIf typeOnly
      return name
    let next ← secondName
    unless next == "as" && (← isAnyWord) do return "type"
    flawIf typeOnly
    let _ ← secondName
  else
    flawIf typeOnly
    if ← eatWord "as" then let _ ← secondName
  return name

def specifier (typeOnly : Bool) (secondName : Rule source String) : Rule source String := do
  let name ← identifierName
  if name == "type" && (← isTyped) && (← isAnyWord) then typeSpecifier typeOnly secondName
  else
    if ← eatWord "as" then let _ ← secondName
    return name

def importSpecifier (typeOnly : Bool) : Rule source Unit := do
  if ← isText then
    skip
    expectWord "as"
    let _ ← declaredName
  else let _ ← specifier typeOnly declaredName

def moduleName : Rule source Unit := do
  flawIf (← isWord "void")
  let _ ← identifierName
  loop do
    unless ← eatSign "." do return false
    let _ ← plainName
    return true

def importedValue : Rule source Unit := do
  expectSign "="
  let quoted ← foresee do
    expectWord "require"
    isSign "("
  if quoted then
    skip
    skip
    quotedName
    expectSign ")"
  else moduleName
  endStatement

def importNames (typeOnly : Bool) : Rule source Unit := do
  if ← eatSign "*" then
    expectWord "as"
    let _ ← declaredName
  else if ← eatSign "\x7b" then
    let _ ← listUntil "\x7d" (importSpecifier typeOnly)

def isNameBeforeFrom : Rule source Bool := do
  let next := (← following).1
  return (← isReference) && (!(← isWord "from") || next == .word "from" false || next == .sign "=")

def marksTypes : Rule source Bool := foresee do
  guard (← isTyped)
  expectWord "type"
  return (← isSign "*") || (← isSign "\x7b") || (← isNameBeforeFrom)

def importClause (typeOnly : Bool) : Rule source Unit := do
  if ← foresee (do expectWord "defer"; isSign "*") then
    skip
    importNames typeOnly
  else if ← isReference then
    let phased ← foresee (do expectWord "source"; isNameBeforeFrom)
    if phased then skip
    let _ ← declaredName
    unless ← isWord "from" do
      expectSign ","
      unless phased do importNames typeOnly
  else importNames typeOnly

def importDeclaration : Rule source Unit := do
  let m ← mark
  expectWord "import"
  if ← isText then
    skip
    importAttributes go
    let _ ← eatSign ";"
  else
    let typeOnly ← marksTypes
    if typeOnly then skip
    if (← isTyped) && (← isReference) && (← following).1 == .sign "=" then
      let _ ← declaredName
      importedValue
    else
      importClause typeOnly
      fromClause go
  gather m .imported

/-! ### Exports -/

def exportName : Rule source String := do
  if ← isText then
    skip
    return ""
  identifierName

def exportSpecifier (typeOnly : Bool) : Rule source Bool := do
  if ← isText then
    skip
    if ← eatWord "as" then let _ ← exportName
    return true
  let name ← specifier typeOnly exportName
  return isKeyword name || name == "package"

def exportSpecifiers (typeOnly : Bool) : (fuel : Nat) → (needsFrom : Bool) → Rule source Bool
  | 0, _ => failure
  | fuel + 1, needsFrom => do
    if ← eatSign "\x7d" then return needsFrom
    let needs := (← exportSpecifier typeOnly) || needsFrom
    if ← eatSign "\x7d" then return needs
    expectSign ","
    exportSpecifiers typeOnly fuel needs

def exportNames (typeOnly : Bool) : Rule source Unit := do
  if ← eatSign "*" then
    if ← eatWord "as" then let _ ← exportName
    fromClause go
  else
    expectSign "\x7b"
    let needsFrom ← exportSpecifiers typeOnly (← read).bound false
    if ← isWord "from" then fromClause go
    else
      flawIf needsFrom
      let _ ← eatSign ";"

/-- Decorators stand before or after `export`, not on both sides. -/
def laterDecorators (m : Nat) : Rule source Unit := do
  if ← isSign "@" then
    guard ((← mark) == m)
    decorators go

def exportDefault (m : Nat) : Rule source Unit := do
  laterDecorators go m
  if (← isTyped) && (← isWord "abstract") && (← following) == (.word "class" false, false) then
    skip
    classFrom go true false m
  else if ← isWord "class" then classFrom go false false m
  else if ← isWord "function" then let _ ← function go m false false
  else if ← isAsyncFunction then
    skip
    let _ ← function go m true false
  else
    forget m
    if ← isTyped <&&> eatWord "interface" then interface go m
    else
      within enclosed (go .assignment)
      endStatement

def exportTyped (m : Nat) : Rule source Unit := do
  guard (← isTyped)
  forget m
  if ← eatWord "import" then
    if (← isWord "type") && (← following).1 != .sign "=" then skip
    let _ ← identifierName
    importedValue
  else if ← eatSign "=" then
    within detached (go .expression)
    endStatement
  else if ← eatWord "as" then
    expectWord "namespace"
    let _ ← plainName
    endStatement
  else
    expectWord "type"
    exportNames go true

def isTypedExport : Rule source Bool := do
  unless ← isTyped do return false
  return (← isWord "import") || (← isSign "=") || (← isWord "as") || (← isWord "type")

def exportPlain (m : Nat) : Rule source Unit := do
  laterDecorators go m
  match ← token with
  | .word "class" false => classFrom go false true m
  | .word "function" false => functionDeclaration go m false
  | _ =>
    if ← isAsyncFunction then
      skip
      functionDeclaration go m true
    else
      forget m
      match ← token with
      | .word "var" false =>
        skip
        variableStatement go false
      | .word "let" false =>
        skip
        guard !(← isWord "this")
        variableStatement go false
      | .word "const" false =>
        if ← isConstantEnum then constantEnum go m
        else
          skip
          variableStatement go true
      | _ => exportNames go false

/-- After `export`; decorators may stand since `m`. Declarations that only types know are read as an attempt, so
that mistakes inside them do not count. -/
def exportAfter (m : Nat) : Rule source Unit := do
  let declaration ← tentative do
    guard (← announcesTyped)
    typedDeclaration go m
  if declaration.isNone then
    if ← isTypedExport then exportTyped go m
    else if ← eatWord "default" then exportDefault go m
    else exportPlain go m

def exportDeclaration (m : Nat) : Rule source Unit := do
  expectWord "export"
  if ← startsAmbient then ambientDeclaration go m
  else
    if ← isTyped then let _ ← eatWord "declare"
    exportAfter go m
  gather m .exported

/-! ### Whole scripts -/

def importStatement : Rule source Unit := do
  let m ← mark
  within detached (go .expression)
  let _ ← eatStatementEnd
  gather m .expressionStatement

def statement (declarations : Bool) : Rule source Unit := do
  let m ← mark
  decorators go
  match ← token with
  | .word "import" false =>
    forget m
    let next := (← following).1
    if next == .sign "(" || next == .sign "." then importStatement go
    else
      guard (← read).atTop
      importDeclaration go
  | .word "export" false =>
    guard (← read).atTop
    guard ((← mark) == m || (← isTyped))
    exportDeclaration go m
  | _ => statementAfter go m declarations

def step : Goal → Rule source Unit
  | .expression => expression go
  | .assignment => assignment go (plainClass go)
  | .binary level canArrow => binary go level canArrow (plainClass go)
  | .unary => unary go false (plainClass go)
  | .callee => callee go (plainClass go)
  | .decorator => decorator go
  | .element => element go
  | .target => target go
  | .type => type go
  | .plainType => plainType go
  | .typeOperand => typeOperand go
  | .statement declarations => statement go declarations

/-- Each level of nesting takes one unit of fuel. -/
def run : (fuel : Nat) → Goal → Rule source Unit
  | 0, _ => failure
  | fuel + 1, goal => step (run fuel) goal

def script (fuel : Nat) : Rule source Unit := do
  loop do
    if ← isFinish then return false
    run fuel (.statement true)
    return true
  gather 0 .script

end Gloss.Script.Rule
