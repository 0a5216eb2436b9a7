import Gloss.Proofs.Engine.Reload
import Gloss.Proofs.Entries
import Gloss.Server
import Gloss.Server.Tool

namespace Gloss

structure Step where
  tree : FileTree
  call : Call

namespace Step

def isOn (root : Path) (s : Step) : Bool := s.call.root.components == root.components

theorem isOn_iff {root : Path} {s : Step} : s.isOn root = true ↔ s.call.root.components = root.components := by
  simp [isOn]

end Step

namespace Engine

def run (engine : Engine) : List Step → List (Except Refusal Reply) × Engine
  | [] => ([], engine)
  | s :: steps =>
    let after := engine.perform s.tree s.call.request
    let rest := after.2.run steps
    (after.1 :: rest.1, rest.2)

/-- The answers of an engine that is made at the first call for which it can be, then loaded, and answers
from this call on. -/
def alone : List Step → List (Except Refusal Reply) × Option Engine
  | [] => ([], none)
  | s :: steps =>
    match ofRoot s.tree s.call.root {} with
    | .error e => (.error (.load e) :: (alone steps).1, (alone steps).2)
    | .ok engine =>
      let rest := (engine.reload s.tree).2.run (s :: steps)
      (rest.1, some rest.2)

def continued : Option Engine → List Step → List (Except Refusal Reply) × Option Engine
  | some engine, steps => ((engine.run steps).1, some (engine.run steps).2)
  | none, steps => alone steps

theorem reload_reload (engine : Engine) (tree : FileTree) : (engine.reload tree).2.reload tree = engine.reload tree :=
  reload_forgets engine tree (engine.reload tree).2.dictionary

theorem answer_none (engine : Engine) (tree : FileTree) (request : Request) :
    engine.answer tree none request = engine.perform tree request := by
  cases request <;> rfl

theorem answer_loaded (engine : Engine) (tree : FileTree) (request : Request) :
    (engine.reload tree).2.answer tree (some (engine.reload tree).1) request =
      (engine.reload tree).2.perform tree request := by
  cases request with
  | reload => rw [answer, perform, reload_reload]
  | settings => rfl
  | reloadFile file => rfl
  | configure patch => rfl
  | hints source language => rfl
  | completions line offset limit => rfl

theorem perform_refused {engine : Engine} {tree : FileTree} {request : Request} {refusal : Refusal}
    (h : (engine.perform tree request).1 = .error refusal) : (engine.perform tree request).2 = engine := by
  cases request with
  | settings => rfl
  | reload => cases h
  | reloadFile file => cases h
  | configure patch =>
    unfold perform at h ⊢
    dsimp only at h ⊢
    cases hr : engine.reconfigure tree patch with
    | ok found =>
      rw [hr] at h
      cases h
    | error e => rfl
  | hints source language => rfl
  | completions line offset limit => rfl

end Engine

namespace Server

def run (server : Server) : List Step → List (Step × Except Refusal Reply) × Server
  | [] => ([], server)
  | s :: steps =>
    let after := server.perform s.tree s.call.root s.call.request
    let rest := after.2.run steps
    ((s, after.1) :: rest.1, rest.2)

theorem engine?_keep (server : Server) (root other : Path) (engine : Engine) :
    (server.keep root engine).engine? other =
      if other.components = root.components then some engine else server.engine? other :=
  Entries.lookup_put (place root.components engine) rfl (fun _ _ => rfl) server.engines other.components

section

variable {server : Server} {tree : FileTree} {root : Path} {request : Request}

theorem perform_known {engine : Engine} (h : server.engine? root = some engine) :
    server.perform tree root request =
      ((engine.perform tree request).1, server.keep root (engine.perform tree request).2) := by
  simp [perform, engineFor, h, Engine.answer_none]

theorem perform_new {engine : Engine} (h : server.engine? root = none) (hroot : Engine.ofRoot tree root {} = .ok engine) :
    server.perform tree root request = (((engine.reload tree).2.perform tree request).1,
      server.keep root ((engine.reload tree).2.perform tree request).2) := by
  simp [perform, engineFor, h, Engine.opened, hroot, Except.map, Engine.answer_loaded]

theorem perform_unmade {e : Engine.Error} (h : server.engine? root = none) (hroot : Engine.ofRoot tree root {} = .error e) :
    server.perform tree root request = (.error (.load e), server) := by
  simp [perform, engineFor, h, Engine.opened, hroot, Except.map]

theorem engine?_congr {other : Path} (h : other.components = root.components) :
    server.engine? other = server.engine? root := by
  rw [engine?, engine?, h]

theorem engine?_perform_other {other : Path} (h : other.components ≠ root.components) :
    (server.perform tree root request).2.engine? other = server.engine? other := by
  cases hserver : server.engine? root with
  | some engine => rw [perform_known hserver, engine?_keep, if_neg h]
  | none =>
    cases hroot : Engine.ofRoot tree root {} with
    | ok engine => rw [perform_new hserver hroot, engine?_keep, if_neg h]
    | error e => rw [perform_unmade hserver hroot]

theorem engine?_perform_refused {refusal : Refusal} (h : (server.perform tree root request).1 = .error refusal)
    {other : Path} {engine : Engine} (hother : server.engine? other = some engine) :
    (server.perform tree root request).2.engine? other = some engine := by
  by_cases hroot : other.components = root.components
  · rw [engine?_congr hroot] at hother
    rw [perform_known hother] at h ⊢
    rw [engine?_keep, if_pos hroot, Engine.perform_refused h]
  · rw [engine?_perform_other hroot, hother]

end

theorem continued_perform (server : Server) {root : Path} {s : Step} (h : s.call.root.components = root.components)
    (steps : List Step) :
    Engine.continued (server.engine? root) (s :: steps) =
      let after := server.perform s.tree s.call.root s.call.request
      (after.1 :: (Engine.continued (after.2.engine? root) steps).1, (Engine.continued (after.2.engine? root) steps).2) := by
  rw [← engine?_congr h]
  cases hserver : server.engine? s.call.root with
  | some engine =>
    simp [perform_known hserver, engine?_keep, h, Engine.continued, Engine.run]
  | none =>
    cases hroot : Engine.ofRoot s.tree s.call.root {} with
    | ok engine =>
      simp [perform_new hserver hroot, engine?_keep, h, Engine.continued, Engine.alone, hroot, Engine.run]
    | error e =>
      simp [perform_unmade hserver hroot, ← engine?_congr h, hserver, Engine.continued, Engine.alone, hroot]

/-- The calls on a project are answered as by its engine alone, from any state of the server. -/
theorem run_on (server : Server) (root : Path) (steps : List Step) :
    ((server.run steps).1.filter (·.1.isOn root)).map (·.2) =
        (Engine.continued (server.engine? root) (steps.filter (Step.isOn root))).1 ∧
      (server.run steps).2.engine? root = (Engine.continued (server.engine? root) (steps.filter (Step.isOn root))).2 := by
  induction steps generalizing server with
  | nil => cases hserver : server.engine? root <;> simp [run, hserver, Engine.continued, Engine.run, Engine.alone]
  | cons s steps ih =>
    obtain ⟨hreplies, hengine⟩ := ih (server.perform s.tree s.call.root s.call.request).2
    by_cases hon : s.isOn root = true
    · simp only [run, List.filter_cons, hon, ↓reduceIte, List.map_cons]
      rw [continued_perform server (Step.isOn_iff.mp hon)]
      exact ⟨congrArg (_ :: ·) hreplies, hengine⟩
    · have hother : root.components ≠ s.call.root.components := fun h => hon (Step.isOn_iff.mpr h.symm)
      simp only [run, List.filter_cons, hon]
      rw [← engine?_perform_other hother]
      exact ⟨hreplies, hengine⟩

/-- The calls on a project are answered as by an engine of its own, which is made and loaded at the first of
them for which it can be. It stays as it is when a call is on another project or is refused, and a call for
which it cannot be made leaves no engine behind. -/
theorem project_apart (steps : List Step) (root : Path) :
    (((({} : Server).run steps).1.filter (·.1.isOn root)).map (·.2) = (Engine.alone (steps.filter (Step.isOn root))).1 ∧
      (({} : Server).run steps).2.engine? root = (Engine.alone (steps.filter (Step.isOn root))).2) ∧
    ∀ s : Step,
      let server := (({} : Server).run steps).2
      let after := server.perform s.tree s.call.root s.call.request
      (s.isOn root = false → after.2.engine? root = server.engine? root) ∧
      (∀ refusal engine, after.1 = .error refusal → server.engine? root = some engine →
        after.2.engine? root = some engine) ∧
      (∀ e, server.engine? s.call.root = none → Engine.ofRoot s.tree s.call.root {} = .error e →
        after = (.error (.load e), server)) := by
  refine ⟨run_on {} root steps, fun s => ⟨fun hoff => ?_, ?_, ?_⟩⟩
  · refine engine?_perform_other fun h => ?_
    rw [Step.isOn_iff.mpr h.symm] at hoff
    cases hoff
  · intro refusal engine hrefused hengine
    exact engine?_perform_refused hrefused hengine
  · intro e hnone hunmade
    exact perform_unmade hnone hunmade

end Server

end Gloss
