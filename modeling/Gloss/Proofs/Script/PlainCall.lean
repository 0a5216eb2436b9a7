import Gloss.Proofs.Script.Rules

namespace Gloss.Script

namespace Token

inductive IsOperand : Token → Prop
  | name : IsOperand (.word "t" false)
  | text (value : Option String) : IsOperand (.text value)

inductive Closes : Token → Prop
  | bracket : Closes (.sign ")")
  | finish : Closes .finish

end Token

structure Lexeme.IsCall {source : List Char} (l : Lexeme source) (value : Option String) : Prop where
  name : l.token = .word "t" false
  opens : l.after.token = .sign "("
  argument : l.after.after.token = .text value
  shuts : l.after.after.after.token = .sign ")"
  finish : l.after.after.after.after.token = .finish

def Tree.ofCall (l : Literal) : Tree := .node .call [.word "t", .node .arguments [.text l]]

namespace Rule

variable {source : List Char} {go : Goal → Rule source Unit} {c : Context} {s s' : State source} {value : Option String}

structure Reads (p : Rule source Unit) (c : Context) (s s' : State source) (t : Tree) : Prop where
  run : p c s = some ((), s')
  forest : s'.forest = t :: s.forest
  flawed : s'.flawed = s.flawed

theorem subscript_closed (h : s.ahead.token.Closes) {t : Tree} {ts : List Tree} (hf : s.forest = t :: ts)
    (ht : t.is .importRef = false) (m : Nat) : subscript go false false m c s = some (false, s) := by
  generalize hx : s.ahead.token = x at h
  cases h <;> simp [subscript, newest_bind hf, hx, ht]

theorem operation_closed (h : s.ahead.token.Closes) (m : Nat) : operation go 0 m c s = some (false, s) := by
  generalize hx : s.ahead.token = x at h
  cases h <;> cases hn : s.ahead.newline <;> simp [operation, level?, hx, hn]

theorem opensTypeParameters_run (c : Context) (s : State source) :
    ∃ opens, opensTypeParameters c s = some (opens, s) := by
  unfold opensTypeParameters
  cases h : c.language.hasElements <;> simp only [hasElements_bind, h] <;> exact ⟨_, rfl⟩

namespace Reads

variable {cls : Nat → Rule source Unit} (ho : s.ahead.token.IsOperand) (hc : s'.ahead.token.Closes) {t : Tree}
  (ht : t.is .arrow = false)

include ho hc ht

theorem unary (h : Reads (leftHandSide go true cls) c s s' t) : Reads (unary go true cls) c s s' t := by
  refine ⟨?_, h.forest, h.flawed⟩
  generalize hx : s.ahead.token = x at ho
  generalize hx' : s'.ahead.token = x' at hc
  cases hn : s'.ahead.newline <;> cases ho <;> cases hc <;>
    simp [Rule.unary, hx, bind_of_run h.run, newestIs_bind h.forest, ht, hx', hn]

theorem binary (h : Reads (leftHandSide go true cls) c s s' t) (hb : 0 < c.bound) :
    Reads (binary go 0 true cls) c s s' t := by
  have hu := h.unary ho hc ht
  have hstop : operations go 0 s.forest.length c s' = some ((), s') := loop_stop (operation_closed hc _) hb
  refine ⟨?_, h.forest, h.flawed⟩
  simp [Rule.binary, bind_of_run hu.run, newestIs_bind h.forest, ht, hstop]

theorem conditional (h : Reads (leftHandSide go true cls) c s s' t) (hb : 0 < c.bound) :
    Reads (conditional go cls) c s s' t := by
  have hbin := h.binary ho hc ht hb
  refine ⟨?_, h.forest, h.flawed⟩
  generalize hx' : s'.ahead.token = x' at hc
  cases hc <;> simp [Rule.conditional, bind_of_run hbin.run, newestIs_bind h.forest, ht, hx']

theorem plainAssignment (h : Reads (leftHandSide go true cls) c s s' t) (hb : 0 < c.bound) :
    Reads (plainAssignment go cls) c s s' t := by
  have hcond := h.conditional ho hc ht hb
  refine ⟨?_, h.forest, h.flawed⟩
  generalize hx : s.ahead.token = x at ho
  generalize hx' : s'.ahead.token = x' at hc
  cases ho <;> cases hc <;>
    simp [Rule.plainAssignment, finishAssignment, compoundSigns, bind_of_run hcond.run, newestIs_bind h.forest, ht, hx', hx]

theorem assignment (h : Reads (leftHandSide go true cls) c s s' t) (hb : 0 < c.bound) :
    Reads (assignment go cls) c s s' t := by
  have hplain := h.plainAssignment ho hc ht hb
  obtain ⟨opens, hopens⟩ := opensTypeParameters_run c s
  refine ⟨?_, h.forest, h.flawed⟩
  generalize hx : s.ahead.token = x at ho
  cases ho <;> simp [Rule.assignment, bind_of_run hopens, hplain.run, hx]

end Reads

theorem Reads.expression {t : Tree} (h : Reads (go .assignment) c s s' t) (hc : s'.ahead.token.Closes) :
    Reads (expression go) c s s' t := by
  refine ⟨?_, h.forest, h.flawed⟩
  generalize hx : s'.ahead.token = x at hc
  cases hc <;> simp [Rule.expression, bind_of_run h.run, hx]

theorem reference_word {name : String} {escaped : Bool} (h : s.ahead.token = .word name escaped)
    (hn : isReserved name = false) (ha : name ≠ "arguments") :
    reference c s = some ((), s.skip.leave (.word name) (by simp)) := by
  have hl : name ≠ "let" := by
    rintro rfl
    exact absurd hn (by decide)
  simp [reference, h, hn, hl, ha, flawIf]

theorem primary_name {cls : Nat → Rule source Unit} (h : s.ahead.token = .word "t" false) (ho : s.ahead.after.token = .sign "(") :
    primary go true cls c s = some ((), s.skip.leave (.word "t") (by simp)) := by
  have hr := reference_word (c := c) h (by decide) (by decide)
  simp [primary, h, nameOrArrow, bind_of_run hr, ho]

theorem leftHandSide_text {cls : Nat → Rule source Unit} (h : s.ahead.token = .text value) (hc : s.ahead.after.token.Closes)
    (hb : 0 < c.bound) :
    Reads (leftHandSide go true cls) c s (s.leaveText value h) (.text (s.ahead.literal value)) := by
  have hf := State.forest_leaveText s value h
  have hp : primary go true cls c s = some ((), s.leaveText value h) := by simp [primary, h, text_run]
  have harrow : (Tree.text (s.ahead.literal value)).is .arrow = false := rfl
  have hstop : subscripts go false false s.forest.length c (s.leaveText value h) = some ((), s.leaveText value h) :=
    loop_stop (subscript_closed hc hf rfl _) hb
  refine ⟨?_, hf, rfl⟩
  simp [leftHandSide, h, bind_of_run hp, newestIs_bind hf, harrow, hstop]

theorem arguments_text (ho : s.ahead.token = .sign "(") (ht : s.ahead.after.token = .text value)
    (hs : s.ahead.after.after.token = .sign ")") (hb : 0 < c.bound) {t : Tree}
    (h : Reads (go .assignment) (enclosed c) s.skip s' t) (ha : s'.ahead = s.ahead.after.after) :
    Reads (arguments go) c s (s'.skip.gather s.forest.length .arguments) (.node .arguments [t]) := by
  have hitem : spreadOr go (go .assignment) (enclosed c) s.skip = some ((), s') := by
    simp [spreadOr, ht, h.run]
  have hlist : listUntil ")" (spreadOr go (go .assignment)) (enclosed c) s.skip = some (false, s'.skip) := by
    obtain ⟨fuel, hfuel⟩ := Nat.exists_eq_succ_of_ne_zero hb.ne'
    have hbound : (enclosed c).bound = fuel + 1 := hfuel
    simp [listUntil, hbound, listFrom, ht, bind_of_run hitem, ha, hs]
  refine ⟨?_, State.forest_gather .arguments [t] h.forest, h.flawed⟩
  simp [arguments, expectSign, ho, hlist]

theorem subscript_call {name : String} {ts : List Tree} (hf : s.forest = .word name :: ts) (h : s.ahead.token = .sign "(")
    {t : Tree} (ha : Reads (arguments go) c s s' t) (m : Nat) :
    subscript go false false m c s = some (true, s'.gather m .call) := by
  simp [subscript, newest_bind hf, Tree.is, Tree.kind?, h, bind_of_run ha.run]

structure ReadsCall (p : Rule source Unit) (c : Context) (s s' : State source) (value : Option String) : Prop extends
    Reads p c s s' (.ofCall (s.ahead.after.after.literal value)) where
  finish : s'.ahead.token = .finish

theorem leftHandSide_call {cls : Nat → Rule source Unit} (h : s.ahead.IsCall value) (hb : 1 < c.bound)
    (hgo : ∀ (s₁ : State source) (h₁ : s₁.ahead.token = .text value), s₁.ahead.after.token.Closes →
      Reads (go .assignment) (enclosed c) s₁ (s₁.leaveText value h₁) (.text (s₁.ahead.literal value))) :
    ∃ s', ReadsCall (leftHandSide go true cls) c s s' value := by
  -- the name is left first, then its arguments, and both are gathered into the call
  let named := s.skip.leave (.word "t") (by simp)
  have hnamed : named.forest = .word "t" :: s.forest := rfl
  have hp : primary go true cls c s = some ((), named) := primary_name h.name h.opens
  have hargs := arguments_text h.opens h.argument h.shuts (by omega)
    (hgo named.skip h.argument (h.shuts ▸ .bracket)) rfl
  have hcall := subscript_call hnamed h.opens hargs s.forest.length
  let given := (named.skip.leaveText value h.argument).skip.gather named.forest.length .arguments
  have hgiven : given.forest = [.node .arguments [.text (s.ahead.after.after.literal value)], .word "t"] ++ s.forest :=
    hargs.forest
  have hforest := State.forest_gather .call _ hgiven
  have hstop : subscripts go false false s.forest.length c named = some ((), given.gather s.forest.length .call) :=
    loop_once hcall (subscript_closed (h.finish ▸ .finish) hforest rfl _) hb
  have harrow : (Tree.word "t").is .arrow = false := rfl
  refine ⟨_, ⟨?_, hforest, rfl⟩, h.finish⟩
  simp [leftHandSide, h.name, bind_of_run hp, newestIs_bind hnamed, harrow, hstop]

theorem run_text (h : s.ahead.token = .text value) (hc : s.ahead.after.token.Closes) (hb : 0 < c.bound) (fuel : Nat) :
    Reads (run (fuel + 1) .assignment) c s (s.leaveText value h) (.text (s.ahead.literal value)) :=
  (leftHandSide_text h hc hb).assignment (h ▸ .text value) hc rfl hb

theorem run_call (h : s.ahead.IsCall value) (hb : 1 < c.bound) (fuel : Nat) :
    ∃ s', ReadsCall (run (fuel + 3) .expression) c s s' value := by
  obtain ⟨s', hl⟩ := leftHandSide_call h hb fun s₁ h₁ hc =>
    run_text h₁ hc (show 0 < (enclosed c).bound from Nat.zero_lt_of_lt hb) fuel
  have hc : s'.ahead.token.Closes := hl.finish ▸ .finish
  have ha : Reads (run (fuel + 2) .assignment) c s s' _ := hl.assignment (h.name ▸ .name) hc rfl (Nat.zero_lt_of_lt hb)
  exact ⟨s', ha.expression hc, hl.finish⟩

theorem startsResources_no (h : s.ahead.token ≠ .word "using" false) : startsResources c s = some (false, s) := by
  simp [startsResources, expectWord, h]

theorem startsTyped_no (h : s.ahead.token = .word "t" false) : startsTyped c s = some (false, s) := by
  cases ht : c.language.isTyped <;> simp [startsTyped, h, ht]

theorem startsAmbient_no (h : s.ahead.token = .word "t" false) : startsAmbient c s = some (false, s) := by
  cases ht : c.language.isTyped <;> simp [startsAmbient, expectWord, h, ht]

theorem endStatement_finish (h : s.ahead.token = .finish) : endStatement c s = some ((), s) := by
  have hend : eatStatementEnd c s = some (true, s) := by simp [eatStatementEnd, isStatementEnd, h]
  simp [endStatement, bind_of_run hend, guard]

theorem expressionStatement_call (he : ReadsCall (go .expression) (enclosed c) s s' value) :
    expressionStatement go c s = some ((), s'.gather s.forest.length .expressionStatement) := by
  have hname : (Tree.ofCall (s.ahead.after.after.literal value)).name? = none := rfl
  simp [expressionStatement, he.run, newest_bind he.forest, hname, bind_of_run (endStatement_finish he.finish)]

theorem plainStatement_call (h : s.ahead.token = .word "t" false) (he : ReadsCall (go .expression) (enclosed c) s s' value) :
    plainStatement go true c s = some ((), s'.gather s.forest.length .expressionStatement) := by
  have hresources : startsResources c s = some (false, s) := startsResources_no (by rw [h]; decide)
  have hawaited : startsAwaitedResources c s = some (false, s) := by simp [startsAwaitedResources, expectWord, h]
  have husing : startsAwaitedUsing c s = some (false, s) := by simp [startsAwaitedUsing, expectWord, h]
  simp [plainStatement, h, bind_of_run hresources, bind_of_run hawaited, bind_of_run husing, expressionStatement_call he]

theorem statement_call (h : s.ahead.token = .word "t" false) (he : ReadsCall (go .expression) (enclosed c) s s' value) :
    Reads (statement go true) c s (s'.gather s.forest.length .expressionStatement)
      (.node .expressionStatement [.ofCall (s.ahead.after.after.literal value)]) := by
  refine ⟨?_, State.forest_gather .expressionStatement [.ofCall _] he.forest, he.flawed⟩
  simp [statement, decorators, h, statementAfter, isAsyncFunction, bind_of_run (startsTyped_no h),
    bind_of_run (startsAmbient_no h), plainStatement_call h he]

theorem script_call (h : s.ahead.IsCall value) (hf : s.forest = []) (hb : 1 < c.bound) (fuel : Nat) :
    ∃ s', Reads (script (fuel + 4)) c s s'
      (.node .script [.node .expressionStatement [.ofCall (s.ahead.after.after.literal value)]]) := by
  obtain ⟨s', he⟩ := run_call (c := enclosed c) h hb fuel
  let last := s'.gather s.forest.length .expressionStatement
  have hs : Reads (run (fuel + 4) (.statement true)) c s last _ := statement_call h.name he
  have hforest : (last.gather 0 .script).forest = _ := State.forest_gather .script [_] (hs.forest.trans (congrArg _ hf))
  refine ⟨last.gather 0 .script, ⟨?_, hforest.trans (by rw [hf]; rfl), hs.flawed⟩⟩
  refine (bind_of_run (loop_once (?_ : _ = some (true, last)) ?_ hb) _).trans rfl
  · simp [h.name, bind_of_run hs.run]
  · simp [last, he.finish]

end Rule

end Gloss.Script
