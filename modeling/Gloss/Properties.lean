import Gloss.Dictionary

/-!
The line format of dictionaries: `key=value` lines with comments, three kinds of separator and
lines that go on after a final `\`. Every text can be read. Values stay raw.
-/

namespace Gloss.Properties

def isBlank (c : Char) : Bool := c == ' ' || c == '\t' || c == '\x0c'

def isSeparator (c : Char) : Bool := c == '=' || c == ':'

def isEscapable (c : Char) : Bool :=
  isSeparator c || c == ' ' || c == '\t' || c == '#' || c == '!' || c == '\\'

/-- The lines of a text; `\n` and `\r\n` end a line, and nothing stands after the last end. -/
def physicalLines : List Char → List (List Char)
  | [] => []
  | '\n' :: cs => [] :: physicalLines cs
  | '\r' :: '\n' :: cs => [] :: physicalLines cs
  | c :: cs =>
    match physicalLines cs with
    | [] => [[c]]
    | line :: lines => (c :: line) :: lines

def trim (line : List Char) : List Char := line.dropWhile isBlank

def isRemark : List Char → Bool
  | [] => true
  | c :: _ => c == '#' || c == '!'

def goesOn (line : List Char) : Bool := (line.reverse.takeWhile (· == '\\')).length % 2 == 1

/-- Joins lines that go on, less their final `\` and the blanks that begin the next; `pending` is
a line that goes on. -/
def join (pending : Option (List Char)) : List (List Char) → List (List Char)
  | [] => pending.toList
  | line :: lines =>
    if pending.isNone && isRemark (trim line) then join none lines
    else
      let joined := pending.getD [] ++ trim line
      if goesOn joined then join (some joined.dropLast) lines else joined :: join none lines

def logicalLines (text : List Char) : List (List Char) := join none (physicalLines text)

/-- What stands after a blank that ends a key: one separator may follow. -/
def afterBlank (rest : List Char) : List Char :=
  match trim rest with
  | [] => []
  | c :: cs => if isSeparator c then trim cs else c :: cs

def splitEntry : List Char → List Char × List Char
  | [] => ([], [])
  | ['\\'] => (['\\'], [])
  | '\\' :: c :: cs =>
    let (key, value) := splitEntry cs
    (if isEscapable c then c :: key else '\\' :: c :: key, value)
  | c :: cs =>
    if isSeparator c then ([], trim cs)
    else if isBlank c then ([], afterBlank cs)
    else
      let (key, value) := splitEntry cs
      (c :: key, value)

def entries (lines : List (List Char)) : List (String × String) :=
  ((lines.map splitEntry).filter (!·.1.isEmpty)).map fun (key, value) =>
    (String.ofList key, String.ofList value)

def parse (text : String) : Dictionary := Dictionary.ofPairs (entries (logicalLines text.toList))

end Gloss.Properties
