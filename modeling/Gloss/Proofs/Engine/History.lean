import Gloss.Proofs.Engine.Overlay
import Gloss.Proofs.Engine.Reconfigured

namespace Gloss

namespace Engine

inductive Action
  | reload
  | reloadFile (path : Path)
  | reconfigure (patch : Patch)
  | config
  | dictionary
  | hints (text : String)
  | hintsOf (text : String) (path : Path)
  | hintsIn (text : String) (language : Script.Language)
  | completions
  | completionsAfter (line : String)

inductive Answer
  | reloaded (summary : Summary)
  | reloadedFile (outcome : Outcome)
  | reconfigured (summary : Summary)
  | refused (e : ConfigError)
  | config (config : Config)
  | dictionary (dictionary : Dictionary)
  | hints (found : List Hint)
  | completions (offered : Option (List Candidate))

def Answer.tellsOfReading : Answer → Bool
  | reloaded _ | reloadedFile (.merged _) | reconfigured _ => true
  | _ => false

def act (engine : Engine) (tree : FileTree) : Action → Answer × Engine
  | .reload => let (summary, after) := engine.reload tree; (.reloaded summary, after)
  | .reloadFile path => let (outcome, after) := engine.reloadFile tree path; (.reloadedFile outcome, after)
  | .reconfigure patch =>
    match engine.reconfigure tree patch with
    | .ok (summary, after) => (.reconfigured summary, after)
    | .error e => (.refused e, engine)
  | .config => (.config engine.config, engine)
  | .dictionary => (.dictionary engine.dictionary, engine)
  | .hints text => (.hints (engine.hints text), engine)
  | .hintsOf text path => (.hints (engine.hintsOf text path), engine)
  | .hintsIn text language => (.hints (engine.hintsIn text language), engine)
  | .completions => (.completions (some engine.completions), engine)
  | .completionsAfter line => (.completions (engine.completionsAfter line), engine)

/-- An engine changes only when it reads files. -/
theorem act_unchanged {engine : Engine} {tree : FileTree} {action : Action}
    (h : (engine.act tree action).1.tellsOfReading = false) : (engine.act tree action).2 = engine := by
  cases action with
  | reload => cases h
  | reloadFile path =>
    rcases engine.reloadFile_cases tree path with ⟨entries, _, hm⟩ | ⟨_, hkept⟩
    · rw [act, hm] at h
      cases h
    · exact hkept
  | reconfigure patch =>
    unfold act at h ⊢
    dsimp only at h ⊢
    cases hr : engine.reconfigure tree patch with
    | ok found =>
      rw [hr] at h
      cases h
    | error e => rfl
  | _ => rfl

end Engine

structure Session where
  tree : FileTree
  engine : Engine

inductive Event
  | change (after : FileTree)
  | act (action : Engine.Action)

namespace Session

def next (s : Session) : Event → Session
  | .change after => { s with tree := after }
  | .act action => { s with engine := (s.engine.act s.tree action).2 }

def run (s : Session) (events : List Event) : Session := events.foldl next s

end Session

end Gloss
