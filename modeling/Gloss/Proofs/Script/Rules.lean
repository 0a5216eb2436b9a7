import Gloss.Script.Parse
import Mathlib.Tactic

namespace Gloss.Script

namespace Lexeme

variable {source : List Char}

def after (l : Lexeme source) : Lexeme source := .next l.stop false

def literal (l : Lexeme source) (value : Option String) : Literal := ⟨l.start.offset, l.stop.offset, value⟩

end Lexeme

namespace State

variable {source : List Char} (s : State source)

@[simp] theorem ahead_skip : s.skip.ahead = s.ahead.after := rfl

@[simp] theorem ahead_leave (t : Tree) (h : t.literals = []) : (s.leave t h).ahead = s.ahead := rfl

@[simp] theorem forest_leaveText (v : Option String) (h : s.ahead.token = .text v) :
    (s.leaveText v h).forest = .text (s.ahead.literal v) :: s.forest := rfl

@[simp] theorem ahead_gather (m : Nat) (kind : Kind) : (s.gather m kind).ahead = s.ahead := rfl

variable {s} in
theorem forest_gather (kind : Kind) (ts : List Tree) {below : List Tree} (h : s.forest = ts ++ below) :
    (s.gather below.length kind).forest = .node kind ts.reverse :: below := by
  simp [gather, h]

@[simp] theorem forget_length : s.forget s.forest.length = s := by
  cases s
  simp [forget]

end State

namespace Rule

variable {source : List Char} {α β : Type} (c : Context) (s : State source)

theorem bind_run (p : Rule source α) (f : α → Rule source β) :
    (p >>= f) c s = (p c s).bind fun r => f r.1 c r.2 := rfl

@[simp] theorem pure_run (a : α) : (pure a : Rule source α) c s = some (a, s) := rfl

@[simp] theorem map_run (g : α → β) (p : Rule source α) : (g <$> p) c s = (p c s).map fun r => (g r.1, r.2) :=
  (Option.map_eq_bind ..).symm

@[simp] theorem foresee_run (p : Rule source Bool) : foresee p c s = some ((p c s).any (·.1), s) := rfl

@[simp] theorem gather_run (m : Nat) (kind : Kind) : gather m kind c s = some ((), s.gather m kind) := rfl

@[simp] theorem leaveName_run (name : String) :
    leaveName name c s = some ((), s.leave (.word name) (by simp)) := rfl

@[simp ↓] theorem token_bind (f : Token → Rule source β) : (token >>= f) c s = f s.ahead.token c s := rfl

@[simp ↓] theorem newline_bind (f : Bool → Rule source β) : (newline >>= f) c s = f s.ahead.newline c s := rfl

@[simp ↓] theorem following_bind (f : Token × Bool → Rule source β) :
    (following >>= f) c s = f (s.ahead.after.token, s.ahead.after.newline) c s := rfl

@[simp ↓] theorem isSign_bind (spelling : String) (f : Bool → Rule source β) :
    (isSign spelling >>= f) c s = f (s.ahead.token == .sign spelling) c s := rfl

@[simp ↓] theorem isWord_bind (name : String) (f : Bool → Rule source β) :
    (isWord name >>= f) c s = f (s.ahead.token == .word name false) c s := rfl

@[simp ↓] theorem isFinish_bind (f : Bool → Rule source β) :
    (isFinish >>= f) c s = f (s.ahead.token == .finish) c s := rfl

@[simp ↓] theorem isOpenAngle_bind (f : Bool → Rule source β) :
    (isOpenAngle >>= f) c s = f (match s.ahead.token with
      | .sign s => s.startsWith "<"
      | _ => false) c s := rfl

@[simp ↓] theorem mark_bind (f : Nat → Rule source β) : (mark >>= f) c s = f s.forest.length c s := rfl

@[simp ↓] theorem get_bind (f : State source → Rule source β) : (get >>= f) c s = f s c s := rfl

@[simp ↓] theorem read_bind (f : Context → Rule source β) : (read >>= f) c s = f c c s := rfl

@[simp ↓] theorem isTyped_bind (f : Bool → Rule source β) : (isTyped >>= f) c s = f c.language.isTyped c s := rfl

@[simp ↓] theorem hasElements_bind (f : Bool → Rule source β) :
    (hasElements >>= f) c s = f c.language.hasElements c s := rfl

@[simp ↓] theorem skip_bind (f : Unit → Rule source β) : (skip >>= f) c s = f () c s.skip := rfl

@[simp ↓] theorem forget_bind (m : Nat) (f : Unit → Rule source β) : (forget m >>= f) c s = f () c (s.forget m) := rfl

@[simp ↓] theorem foresee_bind (p : Rule source Bool) (f : Bool → Rule source β) :
    (foresee p >>= f) c s = f ((p c s).any (·.1)) c s := rfl

@[simp ↓] theorem within_bind (change : Context → Context) (p : Rule source α) (f : α → Rule source β) :
    (within change p >>= f) c s = (p (change c) s).bind fun r => f r.1 c r.2 := rfl

@[simp ↓] theorem eatSign_bind (spelling : String) (f : Bool → Rule source β) : (eatSign spelling >>= f) c s =
    if s.ahead.token = .sign spelling then f true c s.skip else f false c s := by
  unfold eatSign
  by_cases h : s.ahead.token = .sign spelling <;> simp [h]

@[simp ↓] theorem eatWord_bind (name : String) (f : Bool → Rule source β) : (eatWord name >>= f) c s =
    if s.ahead.token = .word name false then f true c s.skip else f false c s := by
  unfold eatWord
  by_cases h : s.ahead.token = .word name false <;> simp [h]

@[simp ↓] theorem guard_bind (p : Prop) [Decidable p] (f : Unit → Rule source β) :
    (guard p >>= f) c s = if p then f () c s else none := by
  by_cases h : p
  · simp [guard, h]
  · simp only [guard, if_neg h]
    rfl

section

variable {c s} {s' : State source}

theorem bind_of_run {p : Rule source α} {a : α} (h : p c s = some (a, s')) (f : α → Rule source β) :
    (p >>= f) c s = f a c s' := by
  rw [bind_run, h, Option.bind_some]

theorem newest_bind {t : Tree} {ts : List Tree} (h : s.forest = t :: ts) (f : Tree → Rule source β) :
    (newest >>= f) c s = f t c s := by
  have hrun : newest c s = some (t, s) := by
    unfold newest
    rw [get_bind, h]
    rfl
  exact bind_of_run hrun f

theorem newestIs_bind {t : Tree} {ts : List Tree} (h : s.forest = t :: ts) (kind : Kind) (f : Bool → Rule source β) :
    (newestIs kind >>= f) c s = f (t.is kind) c s := by
  have hrun : newestIs kind c s = some (t.is kind, s) := newest_bind h _
  exact bind_of_run hrun f

theorem text_run {v : Option String} (h : s.ahead.token = .text v) : text c s = some ((), s.leaveText v h) := by
  unfold text
  split
  · next v' h' =>
    obtain rfl : v = v' := Token.text.inj (h.symm.trans h')
    rfl
  · next hno => exact absurd h (hno v)

theorem repeatedly_stop {p : Rule source Bool} (h : p c s = some (false, s')) (fuel : Nat) :
    repeatedly p (fuel + 1) c s = some ((), s') := by
  rw [repeatedly, bind_of_run h]
  simp

theorem repeatedly_again {p : Rule source Bool} (h : p c s = some (true, s')) (fuel : Nat) :
    repeatedly p (fuel + 1) c s = repeatedly p fuel c s' := by
  rw [repeatedly, bind_of_run h]
  simp

theorem loop_stop {p : Rule source Bool} (h : p c s = some (false, s')) (hb : 0 < c.bound) :
    loop p c s = some ((), s') := by
  obtain ⟨fuel, hfuel⟩ := Nat.exists_eq_succ_of_ne_zero hb.ne'
  rw [loop, read_bind, hfuel, repeatedly_stop h]

theorem loop_once {p : Rule source Bool} {s'' : State source} (h : p c s = some (true, s')) (h' : p c s' = some (false, s''))
    (hb : 1 < c.bound) : loop p c s = some ((), s'') := by
  obtain ⟨fuel, hfuel⟩ : ∃ fuel, c.bound = fuel + 1 + 1 := ⟨c.bound - 2, by omega⟩
  rw [loop, read_bind, hfuel, repeatedly_again h, repeatedly_stop h']

end

end Rule

end Gloss.Script
