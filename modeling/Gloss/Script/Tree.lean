/-!
Trees of scripts. A node lists its children in the order of the text; what is only punctuation, a
plain name being declared or a type leaves no child. `Tree.literals` lists the quoted texts of a
tree in that order, and reading an expression as an assignment target keeps them.
-/

namespace Gloss.Script

inductive Kind
  -- expressions
  | value | this | superRef | importRef | privateName | pattern | metaProperty | hole | trailingComma
  | template | taggedTemplate | array | object | spread | paren | sequence
  | property | shorthand | coverDefault | computedKey
  | function | arrow | method | accessor | class : Kind | implemented | classBody | field | staticBlock
  | member | optionalMember | chainedMember | optionalNonNull | call | optionalCall | new | arguments
  | update | unary | await | yield | binary | logical | coalescing | conditional
  | assignment | compound | typed | constant | assertion | nonNull | instantiation
  | element | opening | attribute | container
  -- targets
  | arrayPattern | objectPattern | defaulted | rest | annotated
  | parameters | parameter | decorators | body
  -- types
  | type | typeParameters | typeArguments | functionType | signature | importType
  -- statements
  | expressionStatement | declaration | declarator | block | empty | control | test | doWhile
  | labelled | switchCase | handler | imported | exported | enumeration | namespaced | script
  deriving DecidableEq, Repr, Inhabited

structure Literal where
  start : Nat
  stop : Nat
  value : Option String
  deriving DecidableEq, Repr

inductive Tree
  | word (name : String)
  | text (literal : Literal)
  | node (kind : Kind) (children : List Tree)
  deriving Inhabited

namespace Tree

def kind? : Tree → Option Kind
  | node k _ => some k
  | _ => none

def is (k : Kind) (t : Tree) : Bool := t.kind? == some k

def name? : Tree → Option String
  | word name => some name
  | _ => none

def children : Tree → List Tree
  | node _ cs => cs
  | _ => []

mutual

def literals : Tree → List Literal
  | word _ => []
  | text l => [l]
  | node _ cs => literalsAll cs

def literalsAll : List Tree → List Literal
  | [] => []
  | t :: ts => t.literals ++ literalsAll ts

end

@[simp] theorem literals_word (name : String) : (word name).literals = [] := by simp [literals]

@[simp] theorem literals_text (l : Literal) : (text l).literals = [l] := by simp [literals]

@[simp] theorem literals_node (k : Kind) (cs : List Tree) :
    (node k cs).literals = literalsAll cs := by simp [literals]

@[simp] theorem literalsAll_nil : literalsAll [] = [] := by simp [literalsAll]

@[simp] theorem literalsAll_cons (t : Tree) (ts : List Tree) :
    literalsAll (t :: ts) = t.literals ++ literalsAll ts := by simp [literalsAll]

@[simp] theorem literalsAll_append (ts us : List Tree) :
    literalsAll (ts ++ us) = literalsAll ts ++ literalsAll us := by
  induction ts with
  | nil => simp
  | cons t ts ih => simp [ih]

def isRestricted (name : String) : Bool := name == "eval" || name == "arguments"

mutual

def isPlace : Tree → Bool
  | word name => !isRestricted name
  | text _ => false
  | node .member _ => true
  | node .paren cs => firstIsPlace cs
  | node .typed cs => firstIsPlace cs
  | node .assertion cs => firstIsPlace cs
  | node .nonNull cs => firstIsPlace cs
  | node .instantiation cs => firstIsPlace cs
  | node _ _ => false

def firstIsPlace : List Tree → Bool
  | [] => false
  | [t] => t.isPlace
  | t :: u :: _ => t.isPlace || u.isPlace

end

inductive Target
  | binding
  | assignment
  deriving DecidableEq

/-- Where a target stands: alone, inside a pattern, there perhaps with a default, or among the members of an object. -/
inductive Role
  | whole
  | inner
  | element
  | entry
  deriving DecidableEq

def spreadIsLast : List Tree → Bool
  | [] => true
  | [_] => true
  | t :: u :: ts => !t.is .spread && !t.is .rest && spreadIsLast (u :: ts)

mutual

/-- An expression read as a target. -/
def target? (target : Target) (role : Role) : Tree → Option Tree
  | word name => if role = .entry ∨ isRestricted name then none else some (word name)
  | text _ => none
  | node k cs =>
    match role, k with
    | .entry, .property => (lastTarget? target cs).map (node .property)
    | .entry, .shorthand =>
      if target = .assignment then some (node .shorthand cs) else (allTargets? target .inner cs).map (node .shorthand)
    | .entry, .coverDefault =>
      if target = .assignment then some (node .defaulted cs) else (firstTarget? target cs).map (node .defaulted)
    | .entry, .defaulted => some (node .defaulted cs)
    | .entry, .spread =>
      if target = .assignment ∨ cs.all (·.name?.isSome) then (allTargets? target .inner cs).map (node .rest) else none
    | .entry, .rest => some (node .rest cs)
    | .entry, .trailingComma => some (node .trailingComma cs)
    | .entry, _ => none
    | .element, .hole => some (node .hole cs)
    | .element, .trailingComma => some (node .trailingComma cs)
    | .element, .spread => (allTargets? target .inner cs).map (node .rest)
    | .element, .rest => some (node .rest cs)
    | .element, .assignment => (firstTarget? target cs).map (node .defaulted)
    | .element, .defaulted => (firstTarget? target cs).map (node .defaulted)
    | .element, .assertion | .inner, .assertion | .element, .nonNull | .inner, .nonNull => none
    | .element, .instantiation | .inner, .instantiation => none
    | _, .array =>
      if spreadIsLast cs then (allTargets? target .element cs).map (node .arrayPattern) else none
    | _, .arrayPattern => (allTargets? target .element cs).map (node .arrayPattern)
    | _, .object =>
      if spreadIsLast cs then (allTargets? target .entry cs).map (node .objectPattern) else none
    | _, .objectPattern => (allTargets? target .entry cs).map (node .objectPattern)
    | _, .parameters =>
      if spreadIsLast cs then (allTargets? target .element cs).map (node .parameters) else none
    | _, .annotated => if target = .binding then some (node .annotated cs) else none
    | _, _ => if target = .assignment ∧ (node k cs).isPlace then some (node k cs) else none

def allTargets? (target : Target) (role : Role) : List Tree → Option (List Tree)
  | [] => some []
  | t :: ts => (target? target role t).bind fun t' => (allTargets? target role ts).map (t' :: ·)

def firstTarget? (target : Target) : List Tree → Option (List Tree)
  | [] => none
  | t :: ts => (target? target .inner t).map (· :: ts)

def lastTarget? (target : Target) : List Tree → Option (List Tree)
  | [] => none
  | [t] => (target? target .element t).map ([·])
  | t :: u :: ts => (lastTarget? target (u :: ts)).map (t :: ·)

end

mutual

theorem literals_target? {target : Target} {role : Role} :
    ∀ {t t' : Tree}, target? target role t = some t' → t'.literals = t.literals
  | word name, t', h => by
    simp only [target?] at h
    split at h <;> simp_all
  | text l, t', h => by simp [target?] at h
  | node k cs, t', h => by
    have fromAll {r : Role} {k' : Kind} (h : (allTargets? target r cs).map (node k') = some t') :
        t'.literals = (node k cs).literals := by
      obtain ⟨cs', hcs, rfl⟩ := Option.map_eq_some_iff.1 h
      simp [literals_allTargets? hcs]
    have fromFirst {k' : Kind} (h : (firstTarget? target cs).map (node k') = some t') :
        t'.literals = (node k cs).literals := by
      obtain ⟨cs', hcs, rfl⟩ := Option.map_eq_some_iff.1 h
      simp [literals_firstTarget? hcs]
    have fromLast {k' : Kind} (h : (lastTarget? target cs).map (node k') = some t') :
        t'.literals = (node k cs).literals := by
      obtain ⟨cs', hcs, rfl⟩ := Option.map_eq_some_iff.1 h
      simp [literals_lastTarget? hcs]
    have same {k' : Kind} (h : some (node k' cs) = some t') : t'.literals = (node k cs).literals := by
      simp [← Option.some.inj h]
    simp only [target?] at h
    split at h <;> (try split at h) <;> grind

theorem literals_allTargets? {target : Target} {role : Role} :
    ∀ {ts ts' : List Tree}, allTargets? target role ts = some ts' → literalsAll ts' = literalsAll ts
  | [], ts', h => by simp only [allTargets?, Option.some.injEq] at h; simp [← h]
  | t :: ts, ts', h => by
    simp only [allTargets?] at h
    obtain ⟨t', ht, h⟩ := Option.bind_eq_some_iff.1 h
    obtain ⟨us, hus, rfl⟩ := Option.map_eq_some_iff.1 h
    simp [literals_target? ht, literals_allTargets? hus]

theorem literals_firstTarget? {target : Target} :
    ∀ {ts ts' : List Tree}, firstTarget? target ts = some ts' → literalsAll ts' = literalsAll ts
  | [], ts', h => by simp [firstTarget?] at h
  | t :: ts, ts', h => by
    simp only [firstTarget?] at h
    obtain ⟨t', ht, rfl⟩ := Option.map_eq_some_iff.1 h
    simp [literals_target? ht]

theorem literals_lastTarget? {target : Target} :
    ∀ {ts ts' : List Tree}, lastTarget? target ts = some ts' → literalsAll ts' = literalsAll ts
  | [], ts', h => by simp [lastTarget?] at h
  | [t], ts', h => by
    simp only [lastTarget?] at h
    obtain ⟨t', ht, rfl⟩ := Option.map_eq_some_iff.1 h
    simp [literals_target? ht]
  | t :: u :: ts, ts', h => by
    simp only [lastTarget?] at h
    obtain ⟨us, hus, rfl⟩ := Option.map_eq_some_iff.1 h
    simp [literals_lastTarget? hus]

end

/-- An object with a default, which makes sense only where the object is read as a target. -/
def isCover : Tree → Bool
  | node .object cs => cs.any (·.is .coverDefault)
  | _ => false

end Tree

end Gloss.Script
