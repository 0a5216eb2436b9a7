import Gloss.Text.Quoted
import Gloss.Text.LineIndex
import Gloss.Json.Value

namespace Gloss.Json

inductive Found
  | null
  | bool (b : Bool)
  | number (n : Number)
  | text (s : String)
  | list
  | object

def Found.ofValue : Json → Found
  | .null => null
  | .bool b => bool b
  | .number n => number n
  | .text s => text s
  | .list _ => list
  | .object _ => object

def Number.render : Number → String
  | whole n => toString n
  | floating negative x => (if negative then "-" else "") ++ x.render

def ticked (s : String) : String := "\x60" ++ s ++ "\x60"

def Found.describe : Found → String
  | null => "null"
  | bool b => "boolean " ++ ticked (toString b)
  | number (.whole n) => "integer " ++ ticked (toString n)
  | number x => "floating point " ++ ticked x.render
  | text s => "string " ++ Quoted.text s
  | list => "sequence"
  | object => "map"

inductive Cause
  | endInValue
  | endInObject
  | endInList
  | endInText
  | valueExpected
  | wordExpected
  | nameExpected
  | colonExpected
  | commaOrBraceExpected
  | commaOrBracketExpected
  | trailingComma
  | trailingCharacters
  | badNumber
  | hugeNumber
  | badEscape
  | halfPair
  | loneSurrogate
  | controlCharacter
  | tooDeep
  | wrongType (found : Found) (expected : String)
  | wrongValue (found : Found) (expected : String)
  | wrongLength (length : Nat) (expected : String)
  | duplicate (name : String)
  | missing (name : String)

def Cause.message : Cause → String
  | endInValue => "EOF while parsing a value"
  | endInObject => "EOF while parsing an object"
  | endInList => "EOF while parsing a list"
  | endInText => "EOF while parsing a string"
  | valueExpected => "expected value"
  | wordExpected => "expected ident"
  | nameExpected => "key must be a string"
  | colonExpected => "expected " ++ ticked ":"
  | commaOrBraceExpected => "expected " ++ ticked "," ++ " or " ++ ticked "\x7d"
  | commaOrBracketExpected => "expected " ++ ticked "," ++ " or " ++ ticked "]"
  | trailingComma => "trailing comma"
  | trailingCharacters => "trailing characters"
  | badNumber => "invalid number"
  | hugeNumber => "number out of range"
  | badEscape => "invalid escape"
  | halfPair => "unexpected end of hex escape"
  | loneSurrogate => "lone leading surrogate in hex escape"
  | controlCharacter => "control character (\\u0000-\\u001F) found while parsing a string"
  | tooDeep => "recursion limit exceeded"
  | wrongType found expected => s!"invalid type: {found.describe}, expected {expected}"
  | wrongValue found expected => s!"invalid value: {found.describe}, expected {expected}"
  | wrongLength length expected => s!"invalid length {length}, expected {expected}"
  | duplicate name => "duplicate field " ++ ticked name
  | missing name => "missing field " ++ ticked name

structure Fault where
  cause : Cause
  offset : Nat

def place (offset start line head : Nat) : List Char → Nat × Nat
  | [] => (line, offset - head)
  | c :: cs =>
    if offset ≤ start then (line, offset - head)
    else if c = '\n' then place offset (start + 1) (line + 1) (start + 1) cs
    else place offset (start + c.utf8Size) line head cs

structure Error where
  cause : Cause
  line : Nat
  column : Nat

def Fault.locate (text : List Char) (fault : Fault) : Error :=
  let (line, column) := place fault.offset 0 1 0 text
  ⟨fault.cause, line, column⟩

def Error.message (e : Error) : String := s!"{e.cause.message} at line {e.line} column {e.column}"

end Gloss.Json
