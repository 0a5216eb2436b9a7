import Gloss.Script.Grammar.Target

/-!
Types. The computed names of members are expressions, and so are the defaults in the patterns of a signature;
nothing else of a type leaves a tree of its own.
-/

namespace Gloss.Script

def typeKeywords : List String := ["break", "enum", "null", "void"]

def plainTypes : List String :=
  ["any", "bigint", "boolean", "intrinsic", "never", "null", "number", "object", "string", "symbol", "undefined",
    "unknown", "void"]

def namesType (name : String) : Bool := name != "let" && (!isKeyword name || typeKeywords.contains name)

def isMisplaced (variance constant : Bool) (seen : List String) : String → Bool
  | "const" => !constant
  | "in" => !variance || seen.contains "in" || seen.contains "out"
  | "out" => !variance || seen.contains "out"
  | _ => true

namespace Rule

variable {source : List Char} (go : Goal → Rule source Unit)

def typeArguments : Rule source Unit := do
  let m ← mark
  angled (go .type)
  gather m .typeArguments

/-- Between operands no other sign begins with the `>` that closes type arguments. -/
def operandTypeArguments : Rule source Unit := do
  let m ← mark
  openAngle
  delimited isCloseAngle (go .type)
  expectSign ">"
  gather m .typeArguments

def typeParameterModifiers (variance constant : Bool) : (fuel : Nat) → (seen : List String) → Rule source Unit
  | 0, _ => failure
  | fuel + 1, seen => do
    if ← isModifier (accessWords ++ ["abstract", "const", "override", "in", "out"]) then
      let name ← identifierName
      flawIf (isMisplaced variance constant seen name)
      typeParameterModifiers variance constant fuel (name :: seen)

def typeParameter (variance constant : Bool) : Rule source Unit := do
  typeParameterModifiers variance constant (← read).bound []
  let _ ← identifierName
  if ← eatWord "extends" then go .type
  if ← eatSign "=" then go .type

def typeParameters (variance constant : Bool) : Rule source Unit := do
  if (← isTyped) && (← isOpenAngle) then
    let m ← mark
    angled (typeParameter go variance constant)
    gather m .typeParameters

def returnType (sign : String) : Rule source Unit := do
  expectSign sign
  let m ← mark
  let asserts ← foresee do
    expectWord "asserts"
    isReference
  if asserts then skip
  let follows ← following
  let tests := (← isReference) && follows.1 == .word "is" false && !follows.2
  if tests then
    skip
    skip
  if asserts && !tests then
    let _ ← identifierName
  else go .type
  gather m .type

def resultType : Rule source Unit := do
  if (← isTyped) && (← isSign ":") then returnType go ":"

/-- The parameters of a signature have no defaults and keep no decorators. -/
def signatureItems : Rule source Unit := do
  let m ← mark
  parameterItems go false (plainParameter go)
  let items := (← get).forest.take ((← mark) - m)
  guard (items.all fun p => !p.children.any (·.is .defaulted))

def signatureParameters : Rule source Unit := do
  let m ← mark
  signatureItems go
  gather m .parameters

def endMember : Rule source Unit := do
  unless ← eatSign "," do endStatement

def dottedName : Rule source Unit := do
  let _ ← identifierName
  loop do
    unless ← eatSign "." do return false
    let _ ← identifierName
    return true

def entityName : Rule source Unit := do
  flawIf (← isWord "void")
  dottedName

def typeReference : Rule source Unit := do
  flawIf (← eatAccessWord)
  entityName
  if !(← newline) && (← isOpenAngle) then typeArguments go

def importType : Rule source Unit := do
  let m ← mark
  expectWord "import"
  expectSign "("
  guard (← isText)
  skip
  if ← eatSign "," <&&> eatSign "\x7b" then
    expectWord "with"
    expectSign ":"
    guard (← isSign "\x7b")
    go .assignment
    let _ ← eatSign ","
    expectSign "\x7d"
  expectSign ")"
  if ← eatSign "." then entityName
  if ← isOpenAngle then typeArguments go
  gather m .importType

def templateType : Rule source Unit := do
  loop do
    let s ← get
    match Token.chunk 0 0 true s.ahead.stop.rest with
    | none => failure
    | some chunk =>
      skipTo (1 + chunk.length)
      unless chunk.opens do return false
      go .type
      guard (← isSign "\x7d")
      return true

/-! ### Members -/

def isIndexStart : Rule source Bool := foresee do
  expectSign "["
  guard (← isReference)
  skip
  return (← isSign ":") || (← isSign ",")

def indexSignature : Rule source Unit := do
  expectSign "["
  let _ ← identifierName
  if ← eatSign "," then flaw else expectSign ":"
  go .type
  expectSign "]"
  if ← eatSign ":" then go .type
  endMember

def signatureKey : Rule source Unit := do
  match ← token with
  | .text _ | .number =>
    let m ← mark
    go .callee
    gather m .computedKey
  | .bigNumber => failure
  | .privateName _ => flaw; skip
  | _ => let _ ← key go

def signature (m : Nat) : Rule source Unit := do
  typeParameters go false true
  signatureParameters go
  resultType go
  gather m .signature
  endMember

def readerSignature : Rule source Unit := do
  expectWord "get"
  signatureKey go
  expectSign "("
  expectSign ")"
  if ← eatSign ":" then go .type
  endMember

/-- Of its parameters a writer keeps the first. -/
def writerSignature : Rule source Unit := do
  expectWord "set"
  signatureKey go
  let m ← mark
  signatureItems go
  guard (m < (← mark))
  forget (m + 1)
  gather m .parameters
  endMember

def namedSignature (readonly : Bool) : Rule source Unit := do
  let m ← mark
  signatureKey go
  let _ ← eatSign "?"
  if (← isSign "(") || (← isOpenAngle) then
    flawIf readonly
    signature go m
  else
    if ← eatSign ":" then go .type
    endMember

def memberSignature : Rule source Unit := do
  let m ← mark
  if (← isSign "(") || (← isOpenAngle) then signature go m
  else if ← foresee (do expectWord "new"; return (← isSign "(") || (← isOpenAngle)) then
    skip
    signature go m
  else
    let readonly ← eatModifier "readonly"
    if ← isIndexStart then indexSignature go
    else
      let accesses ← if readonly then pure none else tentative (readerSignature go <|> writerSignature go)
      if accesses.isNone then namedSignature go readonly

def membersType : Rule source Unit := do
  expectSign "\x7b"
  loop do
    if ← eatSign "\x7d" then return false
    memberSignature go
    return true

def isMappedStart : Rule source Bool := foresee do
  expectSign "\x7b"
  if (← isSign "+") || (← isSign "-") then
    skip
    return ← isWord "readonly"
  let _ ← eatWord "readonly"
  expectSign "["
  guard (← isReference)
  skip
  isWord "in"

def mappedType : Rule source Unit := do
  expectSign "\x7b"
  if (← isSign "+") || (← isSign "-") then
    skip
    expectWord "readonly"
  else let _ ← eatWord "readonly"
  expectSign "["
  let _ ← identifierName
  expectWord "in"
  go .type
  if ← eatWord "as" then go .type
  expectSign "]"
  if (← isSign "+") || (← isSign "-") then
    skip
    expectSign "?"
  else let _ ← eatSign "?"
  if ← eatSign ":" then go .type
  endStatement
  expectSign "\x7d"

/-! ### Tuples -/

/-- Says whether the element is a rest element, and whether it may be missing. -/
def tupleElement : Rule source (Bool × Bool) := do
  let _ ← tentative do
    let _ ← eatSign "..."
    let _ ← identifierName
    let _ ← eatSign "?"
    expectSign ":"
  if ← eatSign "..." then
    go .type
    return (true, false)
  go .type
  return (false, ← eatSign "?")

def tupleElements : (fuel : Nat) → (optional : Bool) → Rule source Unit
  | 0, _ => failure
  | fuel + 1, optional => do
    unless ← eatSign "]" do
      let (rest, missing) ← tupleElement go
      guard !(optional && !missing && !rest)
      unless ← isSign "]" do expectSign ","
      tupleElements fuel (optional || missing)

/-! ### Operands and operators -/

def receiverType : Rule source Unit := do
  expectWord "this"
  if ← sameLine <&&> eatWord "is" then go .type

def namedType (name : String) : Rule source Unit := do
  let next := (← following).1
  if name == "asserts" && next == .word "this" false then
    skip
    skip
    if ← eatWord "is" then go .type
  else if plainTypes.contains name && next != .sign "." then skip
  else
    guard (namesType name)
    typeReference go

def primaryType : Rule source Unit := do
  match ← token with
  | .text _ | .number | .bigNumber => skip
  | .sign "\x60" => templateType go
  | .sign "-" =>
    skip
    match ← token with
    | .number | .bigNumber => skip
    | _ => failure
  | .sign "\x7b" => if ← isMappedStart then mappedType go else membersType go
  | .sign "[" =>
    skip
    tupleElements go (← read).bound false
  | .sign "(" =>
    skip
    go .type
    expectSign ")"
  | .word "import" _ => importType go
  | .word "this" _ => receiverType go
  | .word "typeof" _ =>
    skip
    if ← isWord "import" then importType go
    else
      entityName
      if !(← newline) && (← isOpenAngle) then typeArguments go
  | .word "true" _ | .word "false" _ => skip
  | .word name _ => namedType go name
  | _ => failure

def sequenceType : Rule source Unit := do
  primaryType go
  loop do
    if ← newline then return false
    unless ← eatSign "[" do return false
    unless ← eatSign "]" do
      go .type
      expectSign "]"
    return true

/-- The bound of an inferred name, unless a condition follows it. -/
def inferredBound : Rule source Unit := do
  expectWord "extends"
  within ({ · with withoutConditionalTypes := true }) (go .plainType)
  guard ((← read).withoutConditionalTypes || !(← isSign "?"))

def typeOperand : Rule source Unit := do
  match ← token with
  | .word "keyof" false | .word "unique" false | .word "readonly" false =>
    skip
    go .typeOperand
  | .word "infer" false =>
    skip
    let _ ← identifierName
    let _ ← tentative (inferredBound go)
  | _ => sequenceType go

def signedTypes (sign : String) (operand : Rule source Unit) : Rule source Unit := do
  let _ ← eatSign sign
  operand
  loop do
    unless ← eatSign sign do return false
    operand
    return true

def unionType : Rule source Unit := signedTypes "|" (signedTypes "&" (go .typeOperand))

def isFunctionTypeStart : Rule source Bool := foresee do
  expectSign "("
  if (← isSign ")") || (← isSign "...") then return true
  let _ ← eatAccessWord
  if (← isReference) || (← isWord "this") then skip
  else
    guard ((← isSign "\x7b") || (← isSign "["))
    go .target
  if (← isSign ":") || (← isSign ",") || (← isSign "?") || (← isSign "=") then return true
  expectSign ")"
  isSign "=>"

def functionType : Rule source Unit := do
  let m ← mark
  typeParameters go false true
  signatureParameters go
  returnType go "=>"
  gather m .functionType

def plainType : Rule source Unit := do
  if (← isOpenAngle) || (← isFunctionTypeStart go) then functionType go
  else
    let constructs ← foresee do
      let _ ← eatWord "abstract"
      isWord "new"
    if constructs then
      let _ ← eatWord "abstract"
      skip
      functionType go
    else unionType go

def type : Rule source Unit := do
  within ({ · with withoutConditionalTypes := false }) do
    go .plainType
    if ← sameLine <&&> eatWord "extends" then
      within ({ · with withoutConditionalTypes := true }) (go .plainType)
      expectSign "?"
      go .type
      expectSign ":"
      go .type

end Rule

end Gloss.Script
