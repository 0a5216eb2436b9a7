namespace Gloss.Script

inductive Language
  | typescript
  | typescriptReact
  | javascript
  | javascriptReact
  deriving DecidableEq, Repr, Inhabited

namespace Language

def all : List Language := [typescript, typescriptReact, javascript, javascriptReact]

def id : Language → String
  | typescript => "typescript"
  | typescriptReact => "typescriptreact"
  | javascript => "javascript"
  | javascriptReact => "javascriptreact"

def ofId? (name : String) : Option Language := all.find? (·.id == name)

def ofExtension? : String → Option Language
  | "ts" | "mts" | "cts" => some typescript
  | "tsx" => some typescriptReact
  | "js" | "mjs" | "cjs" => some javascript
  | "jsx" => some javascriptReact
  | _ => none

def isTyped : Language → Bool
  | typescript | typescriptReact => true
  | javascript | javascriptReact => false

def hasElements : Language → Bool
  | typescript => false
  | _ => true

end Language

end Gloss.Script
