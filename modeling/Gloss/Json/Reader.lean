import Gloss.Json.Text

/-!
Reading JSON texts. A reader takes a cursor to the cursor after what it read, or stops at the first
fault. `Json.read` reads a whole text; `Reader.pass` steps over a value without keeping it, and is
content with numbers and texts that no value could hold.
-/

namespace Gloss.Json

abbrev Reader := StateT Cursor (Except Fault)

namespace Reader

variable {α : Type}

def fail (cause : Cause) : Reader α := do throw ⟨cause, (← get).offset⟩

/-- The fault counts the next byte as read, if there is one. -/
def failNext (cause : Cause) : Reader α := do
  let c ← get
  throw ⟨cause, if c.rest.isEmpty then c.offset else c.offset + 1⟩

def peek : Reader (Option Char) := return (← get).rest.head?

def skip : Reader Unit := modify fun c =>
  match c.rest with
  | [] => c
  | d :: ds => ⟨c.offset + d.utf8Size, ds⟩

def isBlank (c : Char) : Bool := c == ' ' || c == '\n' || c == '\t' || c == '\r'

def blanks : Reader (Option Char) := do
  modify fun c => ⟨c.offset + (c.rest.takeWhile isBlank).length, c.rest.dropWhile isBlank⟩
  peek

def word : List Char → Reader Unit
  | [] => pure ()
  | c :: cs => do
    match ← peek with
    | none => fail .endInValue
    | some d => if d = c then do skip; word cs else failNext .wordExpected

def digits : Reader (List Char) := do
  let c ← get
  let ds := c.rest.takeWhile Char.isDigit
  set (⟨c.offset + ds.length, c.rest.dropWhile Char.isDigit⟩ : Cursor)
  return ds

/-- Appends digits to a number while it stays below `2 ^ 64`; what is left are the digits from the
first that does not fit. -/
def accumulate (n : Nat) : List Char → Nat × List Char
  | [] => (n, [])
  | d :: ds =>
    let next := 10 * n + (d.toNat - '0'.toNat)
    if next < Nat.pow 2 64 then accumulate next ds else (n, d :: ds)

def decimal (ds : List Char) : Nat := ds.foldl (fun n d => 10 * n + (d.toNat - '0'.toNat)) 0

def greatestPower : Nat := Nat.pow 2 31 - 1

def digitsToExcess (n count : Nat) : List Char → Option Nat
  | [] => none
  | d :: ds =>
    let next := 10 * n + (d.toNat - '0'.toNat)
    if greatestPower < next then some (count + 1) else digitsToExcess next (count + 1) ds

def floating (negative : Bool) (significand : Nat) (power : Int) : Reader Number := do
  match Binary.ofDecimal? significand power with
  | some x => return .floating negative x
  | none => fail .hugeNumber

def exponent (negative : Bool) (significand : Nat) (power : Int) : Reader Number := do
  skip
  let sign ← peek
  if sign = some '+' ∨ sign = some '-' then skip
  match ← peek with
  | none => fail .endInValue
  | some c =>
    if c.isDigit then
      let start := (← get).offset
      let ds ← digits
      match digitsToExcess 0 0 ds with
      | some count =>
        if significand ≠ 0 ∧ sign ≠ some '-' then throw ⟨.hugeNumber, start + count⟩
        else return .floating negative .zero
      | none =>
        let n : Int := decimal ds
        floating negative significand (if sign = some '-' then power - n else power + n)
    else failNext .badNumber

def endsMantissa (c : Option Char) : Bool := c == some 'e' || c == some 'E'

def fraction (negative : Bool) (significand : Nat) (power : Int) : Reader Number := do
  skip
  let ds ← digits
  if ds.isEmpty then
    match ← peek with
    | none => fail .endInValue
    | some _ => failNext .badNumber
  else
    let (n, unused) := accumulate significand ds
    let power := power - (ds.length - unused.length : Nat)
    if endsMantissa (← peek) then exponent negative n power else floating negative n power

def afterWhole (negative : Bool) (ds : List Char) : Reader Number := do
  let (n, unused) := accumulate 0 ds
  let next ← peek
  if next = some '.' then fraction negative n unused.length
  else if endsMantissa next then exponent negative n unused.length
  else if !unused.isEmpty then floating negative n unused.length
  else if !negative then return .whole n
  else if 0 < n ∧ n ≤ Nat.pow 2 63 then return .whole (-n)
  else floating true n 0

def number (negative : Bool) : Reader Number := do
  match ← peek with
  | none => fail .endInValue
  | some '0' => do
    skip
    if (← peek).any Char.isDigit then failNext .badNumber else afterWhole negative ['0']
  | some c => if c.isDigit then do afterWhole negative (← digits) else failNext .badNumber

def text : Reader String := do
  let c ← get
  match Text.read 0 c.offset c.rest with
  | .ok (cs, stop) => do
    set stop
    return String.ofList cs
  | .error f => throw f

def hasItem (first : Bool) : Reader Bool := do
  match ← blanks with
  | none => fail .endInList
  | some ']' => return false
  | some c =>
    if first then return true
    else if c = ',' then do
      skip
      match ← blanks with
      | none => fail .endInValue
      | some ']' => failNext .trailingComma
      | some _ => return true
    else failNext .commaOrBracketExpected

def closeList : Reader Unit := do
  match ← blanks with
  | none => fail .endInList
  | some ']' => skip
  | some ',' => do
    skip
    if (← blanks) = some ']' then failNext .trailingComma else failNext .trailingCharacters
  | some _ => failNext .trailingCharacters

def hasMember (first : Bool) : Reader Bool := do
  match ← blanks with
  | none => fail .endInObject
  | some '}' => return false
  | some c =>
    if first then if c = '"' then return true else failNext .nameExpected
    else if c = ',' then do
      skip
      match ← blanks with
      | none => fail .endInValue
      | some '"' => return true
      | some '}' => failNext .trailingComma
      | some _ => failNext .nameExpected
    else failNext .commaOrBraceExpected

def closeObject : Reader Unit := do
  match ← blanks with
  | none => fail .endInObject
  | some '}' => skip
  | some ',' => failNext .trailingComma
  | some _ => failNext .trailingCharacters

def colon : Reader Unit := do
  match ← blanks with
  | none => fail .endInObject
  | some ':' => skip
  | some _ => failNext .colonExpected

def name : Reader String := do
  skip
  text

def items (item : Reader α) : (bound : Nat) → (first : Bool) → Reader (List α)
  | 0, _ => return []
  | bound + 1, first => do
    if ← hasItem first then
      let x ← item
      return x :: (← items item bound false)
    else return []

def members (item : Reader α) : (bound : Nat) → (first : Bool) → Reader (List (String × α))
  | 0, _ => return []
  | bound + 1, first => do
    if ← hasMember first then
      let key ← name
      colon
      let x ← item
      return (key, x) :: (← members item bound false)
    else return []

def depthLimit : Nat := 128

def nest (depth : Nat) (inside : Reader α) : Reader α := do
  if depth = 0 then failNext .tooDeep
  else do
    skip
    inside

def list (bound : Nat) (item : Reader α) : Reader (List α) := do
  let xs ← items item bound true
  closeList
  return xs

def value (bound : Nat) : (depth : Nat) → Reader Json
  | 0 => failNext .tooDeep
  | depth + 1 => do
    match ← blanks with
    | none => fail .endInValue
    | some 'n' => do skip; word ['u', 'l', 'l']; return .null
    | some 't' => do skip; word ['r', 'u', 'e']; return .bool true
    | some 'f' => do skip; word ['a', 'l', 's', 'e']; return .bool false
    | some '-' => do skip; return .number (← number true)
    | some '"' => return .text (← name)
    | some '[' => return .list (← nest depth (list bound (value bound depth)))
    | some '{' => nest depth do
      let ms ← members (value bound depth) bound true
      closeObject
      return .ofMembers ms
    | some c => if c.isDigit then return .number (← number false) else failNext .valueExpected

def passFraction : Reader Unit := do
  if (← peek) = some '.' then
    skip
    if (← digits).isEmpty then failNext .badNumber
  if endsMantissa (← peek) then
    skip
    let sign ← peek
    if sign = some '+' ∨ sign = some '-' then skip
    if (← digits).isEmpty then failNext .badNumber

def passNumber : Reader Unit := do
  match ← peek with
  | some '0' => do
    skip
    if (← peek).any Char.isDigit then failNext .badNumber else passFraction
  | some c => if c.isDigit then do let _ ← digits; passFraction else failNext .badNumber
  | none => fail .badNumber

def passText : Reader Unit := do
  skip
  let c ← get
  match Text.pass 0 c.offset c.rest with
  | .ok stop => set stop
  | .error f => throw f

def passItems (item : Reader Unit) (close : Char) (early late : Cause) : (bound : Nat) → Reader Unit
  | 0 => return ()
  | bound + 1 => do
    item
    match ← blanks with
    | none => fail early
    | some c =>
      if c = ',' then do skip; passItems item close early late bound
      else if c = close then skip
      else failNext late

def passName : Reader Unit := do
  match ← blanks with
  | none => fail .endInObject
  | some '"' => passText
  | some _ => failNext .nameExpected

def pass : (bound : Nat) → Reader Unit
  | 0 => return ()
  | bound + 1 => do
    match ← blanks with
    | none => fail .endInValue
    | some 'n' => do skip; word ['u', 'l', 'l']
    | some 't' => do skip; word ['r', 'u', 'e']
    | some 'f' => do skip; word ['a', 'l', 's', 'e']
    | some '-' => do skip; passNumber
    | some '"' => passText
    | some '[' => do
      skip
      match ← blanks with
      | none => fail .endInList
      | some ']' => skip
      | some _ => passItems (pass bound) ']' .endInList .commaOrBracketExpected bound
    | some '{' => do
      skip
      match ← blanks with
      | none => fail .endInObject
      | some '}' => skip
      | some _ =>
        passItems (do passName; colon; pass bound) '}' .endInObject .commaOrBraceExpected bound
    | some c => if c.isDigit then passNumber else failNext .valueExpected

def whole (reader : Reader α) : Reader α := do
  let x ← reader
  match ← blanks with
  | none => return x
  | some _ => failNext .trailingCharacters

def run (reader : Nat → Reader α) (text : String) : Except Error α :=
  let cs := text.toList
  match whole (reader (cs.length + 1)) ⟨0, cs⟩ with
  | .ok (x, _) => .ok x
  | .error fault => .error (fault.locate cs)

end Reader

def read (text : String) : Except Error Json := Reader.run (Reader.value · Reader.depthLimit) text

end Gloss.Json
