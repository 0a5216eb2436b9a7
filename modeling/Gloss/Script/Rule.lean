import Gloss.Script.Cursor
import Gloss.Script.Language

/-!
Grammar rules. A rule reads tokens and leaves trees on a forest; the only ways to grow the forest
are the operations of this file, so in every state its quoted texts stand in the order of the
source, do not overlap, and are what the source says at their places (`State.sound`).
-/

namespace Gloss.Script

structure Context where
  language : Language
  bound : Nat
  labels : List String := []
  inAsync : Bool := false
  inGenerator : Bool := false
  inFunction : Bool := false
  inReceiver : Bool := false
  inParameters : Bool := false
  withoutIn : Bool := false
  canBreak : Bool := false
  canContinue : Bool := false
  atTop : Bool := false
  ambient : Bool := false
  inField : Bool := false
  inStaticBlock : Bool := false
  hasHeritage : Bool := false
  inBranch : Bool := false
  /-- A colon that closes the first branch of a conditional is still to come. -/
  colonAhead : Bool := false
  withoutConditionalTypes : Bool := false
  inForHead : Bool := false
  inForAwaitHead : Bool := false
  /-- Mistakes that the grammar can step over do not count. -/
  lenient : Bool := false

structure Sound (source : List Char) (ls : List Literal) (limit : Nat) : Prop where
  found : ∀ l ∈ ls, l.IsIn source
  within : ∀ l ∈ ls, l.stop ≤ limit
  apart : ls.Pairwise (·.stop ≤ ·.start)

theorem Sound.nil (source : List Char) (limit : Nat) : Sound source [] limit :=
  ⟨by simp, by simp, List.Pairwise.nil⟩

theorem Sound.mono {source : List Char} {ls : List Literal} {m n : Nat} (h : Sound source ls m)
    (le : m ≤ n) : Sound source ls n :=
  ⟨h.found, fun l hl => Nat.le_trans (h.within l hl) le, h.apart⟩

theorem Sound.concat {source : List Char} {ls : List Literal} {m : Nat} (h : Sound source ls m)
    {l : Literal} (found : l.IsIn source) (le : m ≤ l.start) : Sound source (ls ++ [l]) l.stop := by
  have forward : l.start ≤ l.stop := by
    obtain ⟨c, n, _, hs, ht⟩ := found
    rw [hs, ht]
    exact c.offset_le_advance n
  refine ⟨?_, ?_, ?_⟩
  · intro k hk
    rcases List.mem_append.1 hk with hk | hk
    · exact h.found k hk
    · rw [List.mem_singleton.1 hk]; exact found
  · intro k hk
    rcases List.mem_append.1 hk with hk | hk
    · exact Nat.le_trans (h.within k hk) (Nat.le_trans le forward)
    · exact Nat.le_of_eq (congrArg (·.stop) (List.mem_singleton.1 hk))
  · refine List.pairwise_append.2 ⟨h.apart, List.pairwise_singleton _ _, ?_⟩
    intro a ha b hb
    rw [List.mem_singleton.1 hb]
    exact Nat.le_trans (h.within a ha) le

structure State (source : List Char) where
  here : Cursor source
  ahead : Lexeme source
  forest : List Tree
  flawed : Bool
  here_le_ahead : here.offset ≤ ahead.start.offset
  sound : Sound source (Tree.literalsAll forest.reverse) here.offset

namespace State

variable {source : List Char}

def start (source : List Char) : State source where
  here := .start source
  ahead :=
    if "#!".toList.isPrefixOf source then
      match Token.gap .line source 0 true with
      | some (n, newline) => Lexeme.ofCursor ((Cursor.start source).advance n) newline
      | none => Lexeme.invalid (.start source) true
    else Lexeme.next (.start source) true
  forest := []
  flawed := false
  here_le_ahead := Nat.zero_le _
  sound := Sound.nil _ _

def moveTo (s : State source) (c : Cursor source) (le : s.here.offset ≤ c.offset) : State source where
  here := c
  ahead := Lexeme.next c false
  forest := s.forest
  flawed := s.flawed
  here_le_ahead := Lexeme.offset_le_next c false
  sound := s.sound.mono le

def skip (s : State source) : State source :=
  s.moveTo s.ahead.stop (Nat.le_trans s.here_le_ahead s.ahead.start_le_stop)

def skipTo (s : State source) (n : Nat) : State source :=
  s.moveTo (s.ahead.start.advance n) (Nat.le_trans s.here_le_ahead (Cursor.offset_le_advance _ n))

def skipBy (s : State source) (n : Nat) : State source :=
  s.moveTo (s.here.advance n) (Cursor.offset_le_advance _ n)

def leave (s : State source) (t : Tree) (silent : t.literals = []) : State source where
  here := s.here
  ahead := s.ahead
  forest := t :: s.forest
  flawed := s.flawed
  here_le_ahead := s.here_le_ahead
  sound := by simpa [silent] using s.sound

def leaveAt (s : State source) (mark : Nat) (t : Tree) (silent : t.literals = []) :
    State source where
  here := s.here
  ahead := s.ahead
  forest := s.forest.take (s.forest.length - mark) ++ t :: s.forest.drop (s.forest.length - mark)
  flawed := s.flawed
  here_le_ahead := s.here_le_ahead
  sound := by
    have split := s.sound
    rw [← List.take_append_drop (s.forest.length - mark) s.forest, List.reverse_append,
      Tree.literalsAll_append] at split
    simpa [silent] using split

def leaveText (s : State source) (value : Option String) (h : s.ahead.token = .text value) :
    State source where
  here := s.ahead.stop
  ahead := Lexeme.next s.ahead.stop false
  forest := .text ⟨s.ahead.start.offset, s.ahead.stop.offset, value⟩ :: s.forest
  flawed := s.flawed
  here_le_ahead := Lexeme.offset_le_next _ _
  sound := by
    have isIn : Literal.IsIn source ⟨s.ahead.start.offset, s.ahead.stop.offset, value⟩ := by
      obtain ⟨n, read, stop⟩ := s.ahead.found value h
      exact ⟨s.ahead.start, n, read, rfl, by rw [stop]⟩
    simpa using s.sound.concat isIn s.here_le_ahead

def gather (s : State source) (mark : Nat) (kind : Kind) : State source where
  here := s.here
  ahead := s.ahead
  forest := .node kind (s.forest.take (s.forest.length - mark)).reverse
    :: s.forest.drop (s.forest.length - mark)
  flawed := s.flawed
  here_le_ahead := s.here_le_ahead
  sound := by
    have split := s.sound
    rw [← List.take_append_drop (s.forest.length - mark) s.forest, List.reverse_append,
      Tree.literalsAll_append] at split
    simpa using split

def absorb? (s : State source) (mark : Nat) : Option (State source) :=
  match h : s.forest with
  | .node kind children :: ts => some
    { s with
      forest := .node kind ((ts.take (ts.length - mark)).reverse ++ children) :: ts.drop (ts.length - mark)
      sound := by
        have split := s.sound
        rw [h, ← List.take_append_drop (ts.length - mark) ts, List.reverse_cons, List.reverse_append,
          Tree.literalsAll_append, Tree.literalsAll_append] at split
        simpa using split }
  | _ => none

/-- Puts the children of the newest tree, if it is a node of the kind, in its place. -/
def scatter (s : State source) (kind : Kind) : State source :=
  match h : s.forest with
  | .node k children :: ts =>
    if k = kind then
      { s with
        forest := children.reverse ++ ts
        sound := by
          have whole := s.sound
          rw [h] at whole
          simpa using whole }
    else s
  | _ => s

def forget (s : State source) (mark : Nat) : State source where
  here := s.here
  ahead := s.ahead
  forest := s.forest.drop (s.forest.length - mark)
  flawed := s.flawed
  here_le_ahead := s.here_le_ahead
  sound := by
    have split := s.sound
    rw [← List.take_append_drop (s.forest.length - mark) s.forest, List.reverse_append,
      Tree.literalsAll_append] at split
    exact ⟨fun l hl => split.found l (List.mem_append_left _ hl),
      fun l hl => split.within l (List.mem_append_left _ hl), (List.pairwise_append.1 split.apart).1⟩

def retarget? (s : State source) (target : Tree.Target) (role : Tree.Role) : Option (State source) :=
  match h : s.forest with
  | [] => none
  | t :: ts =>
    match ht : Tree.target? target role t with
    | none => none
    | some t' => some
      { s with
        forest := t' :: ts
        sound := by
          have := s.sound
          simp only [h, List.reverse_cons, Tree.literalsAll_append, Tree.literalsAll_cons,
            Tree.literalsAll_nil] at this
          simpa [Tree.literals_target? ht] using this }

end State

abbrev Rule (source : List Char) := ReaderT Context (StateT (State source) Option)

namespace Rule

variable {source : List Char}

/-! ### Looking ahead -/

def token : Rule source Token := return (← get).ahead.token

def newline : Rule source Bool := return (← get).ahead.newline

def sameLine : Rule source Bool := return !(← newline)

def following : Rule source (Token × Bool) := do
  let s ← get
  let l := Lexeme.next s.ahead.stop false
  return (l.token, l.newline)

def isWord (name : String) : Rule source Bool := return (← token) == .word name false

def isSign (spelling : String) : Rule source Bool := return (← token) == .sign spelling

def isAnyWord : Rule source Bool := return match ← token with
  | .word _ _ => true
  | _ => false

def isText : Rule source Bool := return match ← token with
  | .text _ => true
  | _ => false

def isOpenAngle : Rule source Bool := return match ← token with
  | .sign s => s.startsWith "<"
  | _ => false

def isCloseAngle : Rule source Bool := return match ← token with
  | .sign s => s.startsWith ">"
  | _ => false

def isFinish : Rule source Bool := return (← token) == .finish

/-! ### Moving on -/

def skip : Rule source Unit := modify State.skip

def skipTo (n : Nat) : Rule source Unit := modify (State.skipTo · n)

def eatWord (name : String) : Rule source Bool := do
  if ← isWord name then skip; return true
  return false

def eatSign (spelling : String) : Rule source Bool := do
  if ← isSign spelling then skip; return true
  return false

def expectWord (name : String) : Rule source Unit := do guard (← eatWord name)

def expectSign (spelling : String) : Rule source Unit := do guard (← eatSign spelling)

def openAngle : Rule source Unit := do guard (← isOpenAngle); skipTo 1

def closeAngle : Rule source Unit := do guard (← isCloseAngle); skipTo 1

def identifierName : Rule source String := do
  match ← token with
  | .word name _ => skip; return name
  | _ => failure

/-- Counts a mistake that the grammar can step over. -/
def flaw : Rule source Unit := do
  unless (← read).lenient do modify ({ · with flawed := true })

def flawIf (b : Bool) : Rule source Unit := do if b then flaw

/-- A statement may end at a semicolon, a closing brace, the end of the text or a new line. -/
def isStatementEnd : Rule source Bool := do
  if (← isSign ";") || (← isSign "\x7d") || (← isFinish) then return true
  newline

def eatStatementEnd : Rule source Bool := do
  if ← eatSign ";" then return true
  isStatementEnd

def endStatement : Rule source Unit := do guard (← eatStatementEnd)

/-! ### Leaving trees -/

def mark : Rule source Nat := return (← get).forest.length

def leaf (kind : Kind) : Rule source Unit := modify (State.leave · (.node kind []) (by simp))

def leaveName (name : String) : Rule source Unit := modify (State.leave · (.word name) (by simp))

def leaveNameAt (mark : Nat) (name : String) : Rule source Unit :=
  modify (State.leaveAt · mark (.word name) (by simp))

def text : Rule source Unit := fun _ s =>
  match h : s.ahead.token with
  | .text value => some ((), s.leaveText value h)
  | _ => none

def gather (mark : Nat) (kind : Kind) : Rule source Unit := modify (State.gather · mark kind)

def absorb (mark : Nat) : Rule source Unit := fun _ s => (s.absorb? mark).map ((), ·)

def scatter (kind : Kind) : Rule source Unit := modify (State.scatter · kind)

def forget (mark : Nat) : Rule source Unit := modify (State.forget · mark)

def newest : Rule source Tree := do
  match (← get).forest with
  | t :: _ => return t
  | [] => failure

def newestIs (kind : Kind) : Rule source Bool := return (← newest).is kind

def retarget (target : Tree.Target) (role : Tree.Role) : Rule source Unit := fun _ s =>
  (s.retarget? target role).map ((), ·)

/-! ### Combining rules -/

def attempt {α : Type} (p : Rule source α) : Rule source (Option α) := fun c s =>
  match p c s with
  | some (a, s') => some (some a, s')
  | none => some (none, s)

/-- An attempt in which mistakes that the grammar can step over do not count. -/
def tentative {α : Type} (p : Rule source α) : Rule source (Option α) :=
  attempt (withReader ({ · with lenient := true }) p)

def foresee (p : Rule source Bool) : Rule source Bool := fun c s =>
  some ((p c s).any (·.1), s)

def repeatedly (p : Rule source Bool) : (fuel : Nat) → Rule source Unit
  | 0 => failure
  | fuel + 1 => do if ← p then repeatedly p fuel

def loop (p : Rule source Bool) : Rule source Unit := do repeatedly p (← read).bound

def listFrom (close : String) (item : Rule source Unit) : (fuel : Nat) → (comma : Bool) → Rule source Bool
  | 0, _ => failure
  | fuel + 1, comma => do
    if ← eatSign close then return comma
    item
    if ← eatSign close then return false
    expectSign ","
    listFrom close item fuel true

def listUntil (close : String) (item : Rule source Unit) : Rule source Bool := do
  listFrom close item (← read).bound false

def delimited (isEnd : Rule source Bool) (item : Rule source Unit) : Rule source Unit := loop do
  if ← isEnd then return false
  item
  if ← eatSign "," then return true
  guard (← isEnd)
  return false

def angled (item : Rule source Unit) : Rule source Unit := do
  openAngle
  delimited isCloseAngle item
  closeAngle

def within {α : Type} (change : Context → Context) (p : Rule source α) : Rule source α :=
  withReader change p

def isTyped : Rule source Bool := return (← read).language.isTyped

def hasElements : Rule source Bool := return (← read).language.hasElements

end Rule

end Gloss.Script
