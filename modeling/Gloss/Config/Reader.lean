import Gloss.Config
import Gloss.Json.Reader

/-!
Reading settings from JSON texts, as an object or as a list of the fields in their order. Unknown
members are stepped over; a field may stand only once. A full configuration may leave fields out,
which then have their defaults; an update may also hold `null` for a field that stays, but a list
of fields has to be complete for it.
-/

namespace Gloss.Config

open Json (Reader)

inductive Field
  | selectors
  | suffix
  | function
  | ignores
  deriving DecidableEq, Repr

namespace Field

def all : List Field := [selectors, suffix, function, ignores]

def name : Field → String
  | selectors => "selectors"
  | suffix => "i18nFileSuffix"
  | function => "i18nFuncName"
  | ignores => "ignores"

def ofName? (name : String) : Option Field := all.find? (·.name == name)

end Field

inductive Purpose
  | config
  | patch
  deriving DecidableEq, Repr

def Purpose.describe : Purpose → String
  | config => "struct Config"
  | patch => "struct ConfigPatch"

namespace Reading

open Json.Reader

/-- The fault of a value that is not of the expected kind. A scalar is read before it is refused, a
list or an object is not. -/
def refuse {α : Type} (expected : String) : Reader α := do
  match ← peek with
  | some 'n' => do skip; word ['u', 'l', 'l']; fail (.wrongType .null expected)
  | some 't' => do skip; word ['r', 'u', 'e']; fail (.wrongType (.bool true) expected)
  | some 'f' => do skip; word ['a', 'l', 's', 'e']; fail (.wrongType (.bool false) expected)
  | some '-' => do
    skip
    let n ← number true
    fail (.wrongType (.number n) expected)
  | some '"' => do
    let s ← Json.Reader.name
    fail (.wrongType (.text s) expected)
  | some '[' => fail (.wrongType .list expected)
  | some '{' => fail (.wrongType .object expected)
  | some c =>
    if c.isDigit then do
      let n ← number false
      fail (.wrongType (.number n) expected)
    else failNext .valueExpected
  | none => failNext .valueExpected

def string : Reader String := do
  match ← blanks with
  | none => fail .endInValue
  | some '"' => Json.Reader.name
  | some _ => refuse "a string"

def strings (bound : Nat) : Reader (List String) := do
  match ← blanks with
  | none => fail .endInValue
  | some '[' => do skip; list bound string
  | some _ => refuse "a sequence"

def unlessNull {α : Type} (purpose : Purpose) (reader : Reader α) : Reader (Option α) := do
  match purpose with
  | .config => return some (← reader)
  | .patch =>
    if (← blanks) = some 'n' then do
      skip
      word ['u', 'l', 'l']
      return none
    else return some (← reader)

def field (purpose : Purpose) (bound : Nat) (patch : Patch) : Field → Reader Patch
  | .selectors => return { patch with selectors := ← unlessNull purpose (strings bound) }
  | .suffix => return { patch with suffix := ← unlessNull purpose string }
  | .function => return { patch with function := ← unlessNull purpose string }
  | .ignores => return { patch with ignores := ← unlessNull purpose (strings bound) }

def failAfter {α : Type} (close : Reader Unit) (cause : Json.Cause) : Reader α := do
  tryCatch close fun _ => blanks *> pure ()
  fail cause

def members (purpose : Purpose) (bound : Nat) (first : Bool) (seen : List Field) (patch : Patch) :
    (count : Nat) → Reader Patch
  | 0 => return patch
  | count + 1 => do
    if ← hasMember first then
      match Field.ofName? (← Json.Reader.name) with
      | none => do
        colon
        pass bound
        members purpose bound false seen patch count
      | some f =>
        if f ∈ seen then failAfter closeObject (.duplicate f.name)
        else do
          colon
          let patch ← field purpose bound patch f
          members purpose bound false (f :: seen) patch count
    else return patch

def fields (purpose : Purpose) (bound : Nat) (first : Bool) (patch : Patch) : List Field → Reader Patch
  | [] => return patch
  | f :: fs => do
    if ← hasItem first then
      let patch ← field purpose bound patch f
      fields purpose bound false patch fs
    else if purpose = .config then return patch
    else failAfter closeList (.wrongLength (Field.all.length - (f :: fs).length)
      s!"{purpose.describe} with {Field.all.length} elements")

def settings (purpose : Purpose) (bound : Nat) : Reader Patch := do
  match ← blanks with
  | none => fail .endInValue
  | some '[' => do
    skip
    let patch ← fields purpose bound true {} Field.all
    closeList
    return patch
  | some '{' => do
    skip
    let patch ← members purpose bound true [] {} bound
    closeObject
    return patch
  | some _ => refuse purpose.describe

end Reading

def settings (purpose : Purpose) (text : String) : Except Json.Error Patch :=
  Json.Reader.run (Reading.settings purpose) text

def read (text : String) : Except Json.Error Config :=
  (settings .config text).map fun patch => Config.merged {} patch

end Gloss.Config

namespace Gloss

def Patch.read (text : String) : Except Json.Error Patch := Config.settings .patch text

end Gloss
