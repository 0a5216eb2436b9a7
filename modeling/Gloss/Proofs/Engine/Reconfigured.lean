import Gloss.Proofs.Engine.Reload
import Gloss.Server.Request

namespace Gloss

theorem bind_mapError_eq_ok {ε δ α β : Type} {x : Except ε α} {f : ε → δ} {g : α → Except δ β} {b : β}
    (h : (x.mapError f >>= g) = .ok b) : ∃ a, x = .ok a ∧ g a = .ok b := by
  cases x with
  | error e => cases h
  | ok a => exact ⟨a, rfl, h⟩

namespace Config

theorem validate_default : validate {} = .ok () := rfl

theorem load_valid {tree : FileTree} {start : Path} {loaded : Loaded} (h : load tree start = .ok loaded) :
    loaded.config.validate = .ok () := by
  unfold load at h
  cases hfile : find? tree start with
  | none =>
    rw [hfile] at h
    obtain rfl := Except.ok.inj h
    exact validate_default
  | some path =>
    rw [hfile] at h
    obtain ⟨text, _, h⟩ := bind_mapError_eq_ok h
    obtain ⟨config, _, h⟩ := bind_mapError_eq_ok h
    obtain ⟨_, hvalid, h⟩ := bind_mapError_eq_ok h
    obtain rfl := Except.ok.inj h
    exact hvalid

end Config

namespace Engine

variable {engine : Engine} {tree : FileTree} {patch : Patch}

theorem reconfigure_valid (h : (engine.config.merged patch).validate = .ok ()) :
    engine.reconfigure tree patch =
      .ok ({ root := engine.root, config := engine.config.merged patch : Engine }.reload tree) := by
  have hreload := reload_forgets { root := engine.root, config := engine.config.merged patch } tree engine.dictionary
  unfold reconfigure
  dsimp only
  rw [h]
  exact congrArg Except.ok hreload

theorem reconfigure_invalid {e : ConfigError} (h : (engine.config.merged patch).validate = .error e) :
    engine.reconfigure tree patch = .error e := by
  unfold reconfigure
  dsimp only
  rw [h]
  rfl

theorem ofRoot_valid {root : Path} {loaded : Config.Loaded} (hload : Config.load tree root = .ok loaded)
    (h : (loaded.config.merged patch).validate = .ok ()) :
    ofRoot tree root patch = .ok { root, config := loaded.config.merged patch } := by
  unfold ofRoot
  rw [hload]
  dsimp only [Except.mapError, bind, Except.bind]
  rw [h]

theorem reconfigure_ok_iff : (∃ found, engine.reconfigure tree patch = .ok found) ↔
    (engine.config.merged patch).validate = .ok () := by
  cases h : (engine.config.merged patch).validate with
  | ok => simp [reconfigure_valid h]
  | error e => simp [reconfigure_invalid h]

/-- An update is taken just when the settings are valid with it, and then the engine is as a new one that
reloads with these; if it is not taken, nothing changes. So the settings of a project may as well be updated
later as when its engine is made. -/
theorem reconfigure_starts_over (engine : Engine) (tree : FileTree) (patch : Patch) :
    ((∃ found, engine.reconfigure tree patch = .ok found) ↔ (engine.config.merged patch).validate = .ok ()) ∧
      (∀ summary after, engine.reconfigure tree patch = .ok (summary, after) →
        after.config = engine.config.merged patch ∧
          (summary, after) = { root := engine.root, config := engine.config.merged patch : Engine }.reload tree) ∧
      (∀ e, engine.reconfigure tree patch = .error e →
        (engine.config.merged patch).validate = .error e ∧
          engine.perform tree (.configure patch) = (.error (.config e), engine)) ∧
      ∀ atFirst root loaded, Config.load atFirst root = .ok loaded → (loaded.config.merged patch).validate = .ok () →
        ∃ direct plain, ofRoot atFirst root patch = .ok direct ∧ ofRoot atFirst root {} = .ok plain ∧
          ∀ before, (plain.reload before).2.reconfigure tree patch = .ok (direct.reload tree) := by
  refine ⟨reconfigure_ok_iff, fun summary after htaken => ?_, fun e hrefused => ?_, ?_⟩
  · have hvalid := reconfigure_ok_iff.mp ⟨_, htaken⟩
    rw [reconfigure_valid hvalid] at htaken
    obtain hreload := Except.ok.inj htaken
    exact ⟨congrArg (·.2.config) hreload.symm, hreload.symm⟩
  · refine ⟨?_, by rw [perform, hrefused]⟩
    cases hvalid : (engine.config.merged patch).validate with
    | ok => simp [reconfigure_valid hvalid] at hrefused
    | error other =>
      rw [reconfigure_invalid hvalid] at hrefused
      rw [Except.error.inj hrefused]
  · intro atFirst root loaded hload hvalid
    have hplain : ofRoot atFirst root {} = .ok { root, config := loaded.config } :=
      ofRoot_valid hload (Config.load_valid hload)
    exact ⟨_, _, ofRoot_valid hload hvalid, hplain, fun before => reconfigure_valid hvalid⟩

end Engine

end Gloss
