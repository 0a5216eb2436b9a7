import Gloss.Proofs.Config.Suffixes
import Gloss.Proofs.Engine.Validity
import Gloss.Proofs.Server.Arguments

namespace Gloss

namespace Json

def text? : Json → Option String
  | text s => some s
  | _ => none

def texts? : Json → Option (List String)
  | list items => items.mapM text?
  | _ => none

theorem texts?_texts (ss : List String) : (texts ss).texts? = some ss := by
  rw [texts, texts?]
  induction ss with
  | nil => rfl
  | cons s ss ih =>
    rw [List.map_cons, List.mapM_cons, ih]
    rfl

end Json

namespace Engine

theorem perform_eq_act (engine : Engine) (tree : FileTree) (request : Request) :
    ∃ action, (engine.perform tree request).2 = (engine.act tree action).2 := by
  cases request with
  | settings => exact ⟨.config, rfl⟩
  | reload => exact ⟨.reload, rfl⟩
  | reloadFile file => exact ⟨.reloadFile (engine.root.join file), rfl⟩
  | configure patch =>
    refine ⟨.reconfigure patch, ?_⟩
    rw [perform, act]
    cases engine.reconfigure tree patch <;> rfl
  | hints source language => exact ⟨.config, rfl⟩
  | completions line offset limit => exact ⟨.config, rfl⟩

theorem perform_valid {engine : Engine} (h : engine.config.validate = .ok ()) (tree : FileTree) (request : Request) :
    (engine.perform tree request).2.config.validate = .ok () := by
  obtain ⟨action, haction⟩ := engine.perform_eq_act tree request
  rw [haction]
  exact Session.valid_next (s := ⟨tree, engine⟩) h (.act action)

theorem config_reload (engine : Engine) (tree : FileTree) : (engine.reload tree).2.config = engine.config := by
  rw [reload]

theorem reload_congr (tree : FileTree) {engine other : Engine} (hroot : other.root = engine.root)
    (hsuffixes : other.config.suffixes = engine.config.suffixes)
    (hignores : other.config.ignores = engine.config.ignores) :
    (other.reload tree).1 = (engine.reload tree).1 ∧
      (other.reload tree).2.dictionary = (engine.reload tree).2.dictionary := by
  have hfound : other.discover tree = engine.discover tree := by
    rw [discover, discover, hroot, hsuffixes, hignores]
  rw [reload, reload, hfound]
  exact ⟨rfl, rfl⟩

def repetition (engine : Engine) : Patch where
  selectors := some engine.config.selectors
  suffix := some (",".intercalate engine.config.suffixes)
  function := some engine.config.function

def respelled (engine : Engine) : Engine where
  root := engine.root
  config := engine.config.respelled

theorem reconfigure_repetition {engine : Engine} (h : engine.config.validate = .ok ()) (tree : FileTree) :
    engine.reconfigure tree engine.repetition = .ok (engine.respelled.reload tree) := by
  have hmerged : engine.config.merged engine.repetition = engine.config.respelled := rfl
  have hvalid : (engine.config.merged engine.repetition).validate = .ok () := by
    rw [hmerged, Config.validate_respelled, h]
  rw [reconfigure_valid hvalid, hmerged]
  rfl

theorem reload_respelled (engine : Engine) (tree : FileTree) :
    (engine.respelled.reload tree).1 = (engine.reload tree).1 ∧
      (engine.respelled.reload tree).2.dictionary = (engine.reload tree).2.dictionary :=
  reload_congr tree rfl engine.config.suffixes_respelled rfl

end Engine

namespace Server

def Valid (server : Server) : Prop := ∀ root engine, server.engine? root = some engine → engine.config.validate = .ok ()

theorem valid_keep {server : Server} (h : server.Valid) (root : Path) {engine : Engine}
    (hengine : engine.config.validate = .ok ()) : (server.keep root engine).Valid := by
  intro other found hfound
  rw [engine?_keep] at hfound
  split at hfound
  · obtain rfl := Option.some.inj hfound
    exact hengine
  · exact h other found hfound

theorem perform_cases (server : Server) (tree : FileTree) (root : Path) (request : Request) :
    (∃ engine : Engine, server.perform tree root request =
        ((engine.perform tree request).1, server.keep root (engine.perform tree request).2) ∧
      (server.Valid → engine.config.validate = .ok ())) ∨
    ∃ e, server.perform tree root request = (.error (.load e), server) := by
  cases hserver : server.engine? root with
  | some engine => exact .inl ⟨engine, perform_known hserver, fun h => h root engine hserver⟩
  | none =>
    cases hroot : Engine.ofRoot tree root {} with
    | error e => exact .inr ⟨e, perform_unmade hserver hroot⟩
    | ok engine =>
      refine .inl ⟨(engine.reload tree).2, perform_new hserver hroot, fun _ => ?_⟩
      rw [Engine.config_reload]
      exact Engine.ofRoot_ok_valid hroot

theorem valid_perform {server : Server} (h : server.Valid) (tree : FileTree) (root : Path) (request : Request) :
    (server.perform tree root request).2.Valid := by
  cases server.perform_cases tree root request with
  | inl performed =>
    obtain ⟨engine, hperform, hvalid⟩ := performed
    rw [hperform]
    exact valid_keep h root (Engine.perform_valid (hvalid h) tree request)
  | inr refused =>
    obtain ⟨e, hperform⟩ := refused
    rw [hperform]
    exact h

theorem valid_run {server : Server} (h : server.Valid) (steps : List Step) : (server.run steps).2.Valid := by
  induction steps generalizing server with
  | nil => exact h
  | cons s steps ih =>
    apply ih
    exact valid_perform h s.tree s.call.root s.call.request

theorem valid_new : ({} : Server).Valid := by
  intro root engine h
  cases h

def rootArguments (root : String) : Arguments := [("projectRootPath", .text root)]

theorem rootArguments_fit (root : String) : (rootArguments root).Fit [Tool.rootParameter] where
  known := List.forall_mem_singleton.mpr rfl
  complete := rfl

/-- The arguments by which a client gives back the settings that it was told, the suffixes as they were listed,
joined with commas. -/
def fedBack? (root : String) (told : Json) : Option Json := do
  let config ← told.member? "config"
  let selectors ← config.member? "selectors"
  let function ← config.member? "i18nFuncName"
  let suffixes ← (← config.member? "fileSuffixes").texts?
  return .object [("projectRootPath", .text root), ("selectors", selectors), ("i18nFuncName", function),
    ("i18nFileSuffix", .text (",".intercalate suffixes))]

def settingArguments (root : String) (config : Config) : Arguments :=
  [("projectRootPath", .text root), ("selectors", .texts config.selectors), ("i18nFuncName", .text config.function),
    ("i18nFileSuffix", .text (",".intercalate config.suffixes))]

theorem fedBack?_settings (root : String) (fromFile : Bool) (config : Config) :
    fedBack? root (Reply.settings fromFile config).toJson = some (settingArguments root config).toJson := by
  simp [fedBack?, Reply.toJson, Config.view, Json.member?, List.lookup_cons, Json.texts?_texts, settingArguments,
    Arguments.toJson, Argument.toJson]

theorem settings_told {server after : Server} {tree : FileTree} {root : String} {told : Reply}
    (h : server.call tree "get_config" (rootArguments root).toJson = (.ok told, after)) :
    ∃ fromFile engine, told = .settings fromFile engine.config ∧ after.engine? (.ofText root) = some engine ∧
      (server.Valid → engine.config.validate = .ok ()) := by
  have hfit : (rootArguments root).Fit Tool.getConfig.parameters := rootArguments_fit root
  have hrequest : Tool.getConfig.request (rootArguments root) = .settings := rfl
  have hcall := (call_toJson tree hfit rfl).symm.trans h
  rw [hrequest] at hcall
  cases server.perform_cases tree (.ofText root) .settings with
  | inl performed =>
    obtain ⟨engine, hperform, hvalid⟩ := performed
    rw [hperform, Engine.perform] at hcall
    obtain ⟨htold, rfl⟩ := Prod.mk.inj hcall
    obtain rfl := Except.ok.inj htold
    exact ⟨_, engine, rfl, by rw [engine?_keep, if_pos rfl], hvalid⟩
  | inr refused =>
    obtain ⟨e, hperform⟩ := refused
    rw [hperform] at hcall
    cases hcall

section

variable {server : Server} (tree : FileTree) {root : String} {engine : Engine}
  (h : server.engine? (.ofText root) = some engine)

include h

theorem call_getConfig : ∃ fromFile, server.call tree "get_config" (rootArguments root).toJson =
    (.ok (.settings fromFile engine.config), server.keep (.ofText root) engine) := by
  have hfit : (rootArguments root).Fit Tool.getConfig.parameters := rootArguments_fit root
  exact ⟨_, call_known tree hfit rfl h⟩

theorem call_reload : server.call tree "reload_dictionary" (rootArguments root).toJson =
    (.ok (.reloaded (engine.reload tree).1), server.keep (.ofText root) (engine.reload tree).2) := by
  have hfit : (rootArguments root).Fit Tool.reloadDictionary.parameters := rootArguments_fit root
  exact call_known tree hfit rfl h

theorem call_fedBack (hvalid : engine.config.validate = .ok ()) :
    server.call tree "configure" (settingArguments root engine.config).toJson =
      (.ok (.configured (engine.respelled.reload tree).2.config (engine.respelled.reload tree).1),
        server.keep (.ofText root) (engine.respelled.reload tree).2) := by
  have hfit : (settingArguments root engine.config).Fit Tool.configure.parameters := by
    refine ⟨?_, rfl⟩
    simp only [settingArguments, List.forall_mem_cons]
    exact ⟨rfl, rfl, rfl, rfl, List.forall_mem_nil _⟩
  have hrequest : Tool.configure.request (settingArguments root engine.config) = .configure engine.repetition := rfl
  have hcall := call_known tree hfit rfl h
  rw [hrequest, Engine.perform, Engine.reconfigure_repetition hvalid] at hcall
  exact hcall

end

/-- Settings that were told of a project can be given back, with the suffixes as they were listed, joined with
commas. They are taken, and nothing changes but the spelling of the suffixes: what is found and the dictionary
are as after a reload. -/
theorem settings_given_back (steps : List Step) (before tree : FileTree) (root : String) {told : Reply}
    {server : Server} (h : (({} : Server).run steps).2.call before "get_config" (rootArguments root).toJson =
      (.ok told, server)) :
    ∃ engine arguments summary updated reloaded,
      server.engine? (.ofText root) = some engine ∧ fedBack? root told.toJson = some arguments ∧
        (server.call tree "configure" arguments).1 = .ok (.configured updated.config summary) ∧
        (server.call tree "configure" arguments).2.engine? (.ofText root) = some updated ∧
        updated.config.suffixes = engine.config.suffixes ∧ updated.config.function = engine.config.function ∧
        updated.config.selectors = engine.config.selectors ∧ updated.config.ignores = engine.config.ignores ∧
        (server.call tree "reload_dictionary" (rootArguments root).toJson).1 = .ok (.reloaded summary) ∧
        (server.call tree "reload_dictionary" (rootArguments root).toJson).2.engine? (.ofText root) = some reloaded ∧
        updated.dictionary = reloaded.dictionary := by
  obtain ⟨fromFile, engine, rfl, hengine, hvalid⟩ := settings_told h
  obtain ⟨hsummary, hdictionary⟩ := engine.reload_respelled tree
  refine ⟨engine, _, (engine.reload tree).1, (engine.respelled.reload tree).2, (engine.reload tree).2, hengine,
    fedBack?_settings root fromFile engine.config, ?_⟩
  rw [call_fedBack tree hengine (hvalid (valid_run valid_new steps)), call_reload tree hengine, hsummary]
  simp only [engine?_keep, if_pos, Engine.config_reload, true_and]
  exact ⟨engine.config.suffixes_respelled, rfl, rfl, rfl, hdictionary⟩

def untidyPatch : Patch := { suffix := some " .b , ,.a," }

def untidySteps : List Step := [⟨Session.noFiles, .ofText "/", .configure untidyPatch⟩]

theorem tidied_when_given_back :
    ∃ told server, (({} : Server).run untidySteps).2.call Session.noFiles "get_config" (rootArguments "/").toJson =
        (.ok told, server) ∧
      ∃ arguments updated summary, fedBack? "/" told.toJson = some arguments ∧
        (server.call Session.noFiles "configure" arguments).1 = .ok (.configured updated summary) ∧
        updated.suffixes = [".b", ".a"] := by
  have hroot : Engine.ofRoot Session.noFiles (.ofText "/") {} = .ok _ :=
    Engine.ofRoot_valid Session.load_noFiles (by rfl)
  have hperform : ({} : Server).perform Session.noFiles (.ofText "/") (.configure untidyPatch) = _ :=
    perform_new rfl hroot
  rw [Engine.perform, Engine.reconfigure_valid (by rfl)] at hperform
  let asked : Engine := { root := .ofText "/", config := ({} : Config).merged untidyPatch }
  have hasked : (({} : Server).run untidySteps).2.engine? (.ofText "/") = some (asked.reload Session.noFiles).2 := by
    rw [untidySteps, run, run, hperform, engine?_keep, if_pos rfl]
    rfl
  obtain ⟨fromFile, hcall⟩ := call_getConfig Session.noFiles hasked
  obtain ⟨engine, arguments, summary, updated, _, hengine, hfedBack, hanswer, _, hsuffixes, _⟩ :=
    settings_given_back untidySteps Session.noFiles Session.noFiles "/" hcall
  rw [engine?_keep, if_pos rfl] at hengine
  obtain rfl := Option.some.inj hengine
  refine ⟨_, _, hcall, arguments, updated.config, summary, hfedBack, hanswer, ?_⟩
  rw [hsuffixes, Engine.config_reload]
  decide +kernel

end Server

end Gloss
