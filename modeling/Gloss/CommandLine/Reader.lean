import Gloss.CommandLine.Fault
import Gloss.Text.Similarity

/-!
Reading the words of a command line. A switch or an operand counts once the word after it has been
looked at, so that a fault in that word may come first.
-/

namespace Gloss.CommandLine

structure Given where
  switches : List (Switch × String) := []
  operands : List String := []

namespace Given

def has (given : Given) (long : String) : Bool := given.switches.any (·.1.long == long)

def value? (given : Given) (long : String) : Option String :=
  (given.switches.find? (·.1.long == long)).map (·.2)

def usage (given : Given) (scope : Scope) : Markup :=
  scope.usageWith (given.switches.map (·.1)) (!given.operands.isEmpty)

def add (given : Given) (s : Switch) (value : String) : Given :=
  { given with switches := given.switches ++ [(s, value)] }

end Given

inductive Stop
  | fault (f : Fault)
  | help (scope : Scope)
  | version

inductive Pending
  | nothing
  | value (s : Switch) (given : Option String)
  | operands (words : List String)

structure Reading where
  given : Given := {}
  pending : Pending := .nothing

namespace Reading

def assign (scope : Scope) (given : Given) (s : Switch) (value : String) : Except Fault Given :=
  if given.has s.long then .error (.repeated s scope.usage)
  else
    match s.effect, value.isEmpty with
    | .path _, true => .error (.valueMissing s.text)
    | _, _ => .ok (given.add s value)

def settle (scope : Scope) (r : Reading) : Except Fault Given :=
  match r.pending with
  | .nothing => .ok r.given
  | .value s none => .error (.valueMissing s.text)
  | .value s (some value) => assign scope r.given s value
  | .operands words =>
    if words.any (·.isEmpty) then .error (.valueMissing ((scope.operand?.map (·.1)).getD ""))
    else .ok { r.given with operands := r.given.operands ++ words }

def settled (r : Reading) : Given :=
  match r.pending with
  | .nothing | .value _ none => r.given
  | .value s (some value) => r.given.add s value
  | .operands words => { r.given with operands := r.given.operands ++ words }

def settleOrStop (scope : Scope) (r : Reading) : Except Stop Given := (r.settle scope).mapError .fault

def flag (scope : Scope) (r : Reading) (s : Switch) : Except Stop Reading := do
  let given ← r.settleOrStop scope
  match s.effect with
  | .help => throw (.help scope)
  | .version => throw .version
  | _ =>
    if given.has s.long then throw (.fault (.repeated s scope.usage))
    else return ⟨given.add s "", .nothing⟩

def switchElsewhere? (name : String) : List String → Option Tip
  | [] => none
  | w :: ws =>
    match Subcommand.ofName? w with
    | none => switchElsewhere? name ws
    | some c =>
      match (Similarity.similar name (c.switches.map (·.long))).getLast? with
      | some long => some (.switchOf c long)
      | none => switchElsewhere? name ws

def verbatimTip? (scope : Scope) (word : String) : Option Tip := scope.operand?.map fun _ => .verbatim word

def unknownLong (scope : Scope) (r : Reading) (name : String) (rest : List String) : Fault :=
  let word := "--" ++ name
  let given := r.settled
  match (Similarity.similar name (scope.switches.map (·.long))).getLast? with
  | some long =>
    let meant := scope.switches.filter (·.long == long)
    .unknownWord word (some (.switch long))
      (scope.usageWith (given.switches.map (·.1) ++ meant) (!given.operands.isEmpty))
  | none =>
    let elsewhere := match scope with
      | .program => switchElsewhere? name rest
      | _ => none
    .unknownWord word (elsewhere <|> verbatimTip? scope word) (given.usage scope)

def long (scope : Scope) (r : Reading) (name : String) (attached : Option String) (rest : List String) :
    Except Stop Reading :=
  match scope.switches.find? (·.long == name), attached with
  | none, _ => .error (.fault (r.unknownLong scope name rest))
  | some s, some value =>
    if s.placeholder?.isSome then do
      let given ← r.settleOrStop scope
      return ⟨← (assign scope given s value).mapError .fault, .nothing⟩
    else .error (.fault (.valueNotTaken value s (r.given.usage scope)))
  | some s, none =>
    if s.placeholder?.isSome then do return ⟨← r.settleOrStop scope, .value s none⟩
    else r.flag scope s

def short (scope : Scope) (r : Reading) : List Char → Except Stop Reading
  | [] => .ok r
  | c :: cs =>
    match scope.switches.find? (·.short == some c) with
    | some s => do short scope (← r.flag scope s) cs
    | none =>
      let word := "-" ++ c.toString
      .error (.fault (.unknownWord word (verbatimTip? scope word) scope.usage))

def commandNames : List String := Subcommand.all.map (·.name) ++ ["help"]

/-- Reads a word that is no switch; `isTrailing` tells whether it follows `--`. -/
def operand (scope : Scope) (r : Reading) (isTrailing : Bool) (word : String) : Except Stop Reading :=
  match scope.operand? with
  | some _ =>
    match r.pending with
    | .operands words => .ok ⟨r.given, .operands (words ++ [word])⟩
    | _ => do return ⟨← r.settleOrStop scope, .operands [word]⟩
  | none =>
    match scope with
    | .program =>
      if isTrailing && word ∈ commandNames then
        .error (.fault (.unknownWord word (some (.withoutDashes word)) scope.usage))
      else .error (.fault (.unknownCommand word (Similarity.similar word commandNames) scope.usage))
    | _ => .error (.fault (.unknownWord word none scope.usage))

inductive Shape
  | dashes
  | long (name : String) (attached : Option String)
  | short (letters : List Char)
  | other

def nameAndValue (cs : List Char) : String × Option String :=
  match cs.span (· ≠ '=') with
  | (name, []) => (String.ofList name, none)
  | (name, _ :: value) => (String.ofList name, some (String.ofList value))

def shapeOf (word : String) : Shape :=
  match word.toList with
  | ['-', '-'] => .dashes
  | '-' :: '-' :: cs => let (name, value) := nameAndValue cs; .long name value
  | '-' :: c :: cs => .short (c :: cs)
  | _ => .other

def word (scope : Scope) (r : Reading) (word : String) (rest : List String) : Except Stop Reading :=
  match shapeOf word, r.pending with
  | .long name attached, _ => r.long scope name attached rest
  | .short letters, _ => r.short scope letters
  | .dashes, _ => .ok r
  | .other, .value s none => .ok ⟨r.given, .value s (some word)⟩
  | .other, _ => r.operand scope false word

def words (scope : Scope) (r : Reading) : List String → Except Stop Reading
  | [] => .ok r
  | w :: ws =>
    match shapeOf w with
    | .dashes => ws.foldlM (fun r w => r.operand scope true w) r
    | _ => do words scope (← r.word scope w ws) ws

end Reading

def Subcommand.given (c : Subcommand) (words : List String) : Except Stop Given := do
  let scope := Scope.command c
  let given ← (← Reading.words scope {} words).settleOrStop scope
  match c.operand?, given.operands with
  | some (name, _), [] =>
    throw (.fault (.operandsMissing name (scope.usageWith (given.switches.map (·.1)) true)))
  | _, _ => return given

def helpOn (scope : Scope) : List String → Stop
  | [] => .help scope
  | name :: names =>
    match scope, name, Subcommand.ofName? name with
    | .program, _, some c => helpOn (.command c) names
    | .program, "help", _ => helpOn .help names
    | _, _, _ => .fault (.unknownCommand name [] scope.usage)

def readWords (r : Reading) : List String → Except Stop (Subcommand × Given)
  | [] => .error (.help .program)
  | w :: ws =>
    match w, Subcommand.ofName? w with
    | "help", _ => .error (helpOn .program ws)
    | _, some c => do return (c, ← c.given ws)
    | "--", _ => do
      let _ ← ws.foldlM (fun r w => r.operand .program true w) r
      throw (.help .program)
    | _, none => do readWords (← r.word .program w ws) ws

end Gloss.CommandLine
