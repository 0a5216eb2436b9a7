import Gloss.Script.Rule

namespace Gloss.Script

inductive Goal
  | expression
  | assignment
  | binary (level : Nat) (canArrow : Bool)
  | unary
  | callee
  | decorator
  | element
  | target
  | type
  | plainType
  | typeOperand
  | statement (declarations : Bool)

inductive Key
  | name (name : String)
  | text (value : Option String)
  | number
  | computed
  | privateName (name : String)
  deriving DecidableEq

namespace Key

def isName (name : String) : Key → Bool
  | .name n => n == name
  | _ => false

def isConstructor : Key → Bool
  | .name n => n == "constructor"
  | .text v => v == some "constructor"
  | _ => false

end Key

def keywords : List String :=
  ["break", "case", "catch", "class", "const", "continue", "debugger", "default", "delete", "do",
    "else", "enum", "export", "extends", "false", "finally", "for", "function", "if", "import", "in",
    "instanceof", "new", "null", "return", "super", "switch", "this", "throw", "true", "try",
    "typeof", "var", "void", "while", "with"]

def strictWords : List String :=
  ["implements", "interface", "let", "package", "private", "protected", "public", "static", "yield"]

def isKeyword (name : String) : Bool := keywords.contains name

def isReserved (name : String) : Bool :=
  isKeyword name || strictWords.contains name || name == "await"

def expressionWords : List String :=
  ["class", "delete", "false", "function", "import", "new", "null", "super", "this", "true", "typeof",
    "void"]

def startsExpression : Token → Bool
  | .word name _ => !isKeyword name || expressionWords.contains name
  | .number | .bigNumber | .text _ => true
  | .sign s => ["(", "[", "\x7b", "\x60", "+", "-", "!", "~", "++", "--", "<", "/", "/=", "@"].contains s
  | _ => false

def accessWords : List String := ["public", "protected", "private", "readonly"]

namespace Rule

variable {source : List Char}

def checkName (name : String) : Rule source Unit := do
  guard (!isKeyword name || name == "enum")
  flawIf (isKeyword name || strictWords.contains name)
  if name == "await" && !(← read).ambient then failure

def reference : Rule source Unit := do
  match ← token with
  | .word name _ =>
    guard (!isReserved name || name == "let")
    flawIf (name == "let" || name == "arguments" && (← read).inField)
    skip
    leaveName name
  | _ => failure

def plainName : Rule source String := do
  match ← token with
  | .word name _ =>
    unless name == "this" && (← isTyped) do checkName name
    skip
    return name
  | _ => failure

def declaredName : Rule source String := do
  let name ← plainName
  flawIf (Tree.isRestricted name)
  return name

def isReference : Rule source Bool := return match ← token with
  | .word name _ => !isReserved name
  | _ => false

def isModifier (words : List String) : Rule source Bool := do
  match ← token, (← following).1 with
  | .word name false, .word _ _ | .word name false, .text _ | .word name false, .number
  | .word name false, .bigNumber | .word name false, .privateName _ => return words.contains name
  | .word name false, .sign s => return words.contains name && ["[", "\x7b", "*", "..."].contains s
  | _, _ => return false

def eatModifier (name : String) : Rule source Bool := do
  unless (← isTyped) && (← isModifier [name]) do return false
  skip
  return true

end Rule

end Gloss.Script
