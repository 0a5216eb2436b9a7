import Gloss.Proofs.Engine.History

namespace Gloss

theorem trim_eq_nil_iff (cs : List Char) : trim cs = [] ↔ ∀ c ∈ cs, isWhite c = true := by
  simp only [trim, List.reverse_eq_nil_iff, List.dropWhile_eq_nil_iff, List.mem_reverse]
  constructor
  · intro h
    -- what blanks in front leave begins with another character
    have hnil : cs.dropWhile isWhite = [] := by
      by_contra hne
      have hhead := List.head_dropWhile_not isWhite hne
      rw [h _ (List.head_mem hne)] at hhead
      cases hhead
    exact List.dropWhile_eq_nil_iff.mp hnil
  · intro h c hc
    exact h c ((List.dropWhile_suffix _).subset hc)

namespace Script.Language

theorem id_of_ofId? {name : String} {l : Language} (h : ofId? name = some l) : l.id = name := by
  simpa using List.find?_some h

end Script.Language

namespace Config

theorem checkFunction_ok_iff (config : Config) :
    config.checkFunction = .ok () ↔ ∃ c ∈ config.function.toList, isWhite c = false := by
  simp [checkFunction, List.isEmpty_iff, trim_eq_nil_iff]

theorem checkSelectors_ok_iff (ids : List String) :
    checkSelectors ids = .ok () ↔ ∀ id ∈ ids, (Script.Language.ofId? id).isSome = true := by
  induction ids with
  | nil => simp [checkSelectors]
  | cons id ids ih =>
    cases h : (Script.Language.ofId? id).isSome <;> simp [checkSelectors, h, ih]

theorem checkIgnores_ok_iff (patterns : List String) :
    checkIgnores patterns = .ok () ↔ ∀ pattern ∈ patterns, ∃ glob, Glob.parse pattern = .ok glob := by
  induction patterns with
  | nil => simp [checkIgnores]
  | cons pattern patterns ih =>
    cases h : Glob.parse pattern <;> simp [checkIgnores, h, ih]

/-- Settings are valid if the function's name is not blank, each selector is a language, and each ignore
pattern can be read. -/
theorem validate_ok_iff (config : Config) : config.validate = .ok () ↔
    (∃ c ∈ config.function.toList, isWhite c = false) ∧
      (∀ id ∈ config.selectors, (Script.Language.ofId? id).isSome = true) ∧
      ∀ pattern ∈ config.ignores, ∃ glob, Glob.parse pattern = .ok glob := by
  rw [← checkFunction_ok_iff, ← checkSelectors_ok_iff, ← checkIgnores_ok_iff, validate]
  cases config.checkFunction with
  | error e => simp [bind, Except.bind]
  | ok =>
    cases checkSelectors config.selectors <;> simp [bind, Except.bind]

theorem languages_of_valid {config : Config} (h : config.validate = .ok ()) :
    config.languages.map (·.id) = config.selectors := by
  have hselectors := (config.validate_ok_iff.mp h).2.1
  rw [languages]
  generalize config.selectors = selectors at hselectors ⊢
  induction selectors with
  | nil => rfl
  | cons id ids ih =>
    obtain ⟨hid, hids⟩ := List.forall_mem_cons.mp hselectors
    obtain ⟨l, hl⟩ := Option.isSome_iff_exists.mp hid
    rw [List.filterMap_cons, hl]
    dsimp only
    rw [List.map_cons, Script.Language.id_of_ofId? hl, ih hids]

theorem patterns_of_valid {config : Config} (h : config.validate = .ok ()) :
    List.Forall₂ (fun pattern glob => Glob.parse pattern = .ok glob) config.ignores
      (Discovery.Filter.ofSettings config.suffixes config.ignores).ignores := by
  have hignores := (config.validate_ok_iff.mp h).2.2
  rw [Discovery.Filter.ofSettings]
  dsimp only
  generalize config.ignores = ignores at hignores ⊢
  induction ignores with
  | nil => exact .nil
  | cons pattern patterns ih =>
    obtain ⟨⟨glob, hglob⟩, hpatterns⟩ := List.forall_mem_cons.mp hignores
    rw [Discovery.Filter.patterns, List.filterMap_cons, hglob]
    exact .cons hglob (ih hpatterns)

end Config

namespace Engine

theorem ofRoot_ok_valid {tree : FileTree} {root : Path} {overrides : Patch} {engine : Engine}
    (h : ofRoot tree root overrides = .ok engine) : engine.config.validate = .ok () := by
  obtain ⟨loaded, _, h⟩ := bind_mapError_eq_ok h
  obtain ⟨_, hvalid, h⟩ := bind_mapError_eq_ok h
  obtain rfl := Except.ok.inj h
  exact hvalid

theorem act_config (engine : Engine) (tree : FileTree) (action : Action) :
    (engine.act tree action).2.config = engine.config ∨
      ∃ patch, action = .reconfigure patch ∧ (engine.config.merged patch).validate = .ok () ∧
        (engine.act tree action).2.config = engine.config.merged patch := by
  cases action with
  | reconfigure patch =>
    cases hvalid : (engine.config.merged patch).validate with
    | ok =>
      right
      refine ⟨patch, rfl, hvalid, ?_⟩
      rw [act, reconfigure_valid hvalid]
      rfl
    | error e =>
      left
      rw [act, reconfigure_invalid hvalid]
  | reloadFile path =>
    left
    rcases engine.reloadFile_cases tree path with ⟨entries, _, hmerged⟩ | ⟨_, hkept⟩
    · rw [act, hmerged]
    · exact congrArg Engine.config hkept
  | reload =>
    left
    rw [act, reload]
  | _ => exact .inl rfl

end Engine

namespace Session

theorem valid_next {s : Session} (h : s.engine.config.validate = .ok ()) (e : Event) :
    (s.next e).engine.config.validate = .ok () := by
  cases e with
  | change after => exact h
  | act action =>
    rcases s.engine.act_config s.tree action with hkept | ⟨patch, _, hvalid, hupdated⟩
    · rwa [next, hkept]
    · rwa [next, hupdated]

theorem valid_run {s : Session} (h : s.engine.config.validate = .ok ()) (events : List Event) :
    (s.run events).engine.config.validate = .ok () := by
  induction events generalizing s with
  | nil => exact h
  | cons e events ih => exact ih (valid_next h e)

/-- An engine that was made for a root has valid settings ever after: no ignore pattern is left out when files
are looked for, each selector stands for one language, and the function has a name. -/
theorem settings_stay_valid {tree : FileTree} {root : Path} {overrides : Patch} {engine : Engine}
    (h : Engine.ofRoot tree root overrides = .ok engine) (files : FileTree) (events : List Event) :
    let config := ((⟨files, engine⟩ : Session).run events).engine.config
    config.validate = .ok () ∧
      List.Forall₂ (fun pattern glob => Glob.parse pattern = .ok glob) config.ignores
        (Discovery.Filter.ofSettings config.suffixes config.ignores).ignores ∧
      config.languages.map (·.id) = config.selectors ∧
      ∃ c ∈ config.function.toList, isWhite c = false := by
  intro config
  have hvalid : config.validate = .ok () := valid_run (Engine.ofRoot_ok_valid h) events
  refine ⟨hvalid, Config.patterns_of_valid hvalid, Config.languages_of_valid hvalid, ?_⟩
  exact (config.validate_ok_iff.mp hvalid).1

def updates : List Event :=
  [.act (.reconfigure { ignores := some ["dist", "**/_*"] }), .act (.reconfigure { ignores := some ["["] }),
    .act (.reconfigure { selectors := some ["cobol"] }), .act .reload]

def noFiles : FileTree := ⟨.directory [], []⟩

theorem load_noFiles : Config.load noFiles (.ofText "/") = .ok ⟨{}, false⟩ := by
  have hmissing {name : String} (hname : Path.IsName name) : noFiles.isPresent ⟨true, [name]⟩ = false := by
    simp [FileTree.isPresent, FileTree.node, FileTree.resolve, FileTree.walk, noFiles, hname.1, hname.2.1,
      Node.isDirectory, Node.entry?, Except.map, Except.isOk, Except.toBool]
  have hancestors : (Path.ofText "/").ancestors = [.ofText "/"] := by cbv
  have hfile : Config.fileIn (.ofText "/") = ⟨true, [configName]⟩ := by decide +kernel
  have hmarker : (Path.ofText "/").join (.ofText Config.markerName) = ⟨true, [Config.markerName]⟩ := by decide +kernel
  rw [Config.load, Config.find?, hancestors, Config.firstFile?, hfile, hmissing (by decide), hmarker,
    hmissing (by decide)]
  rfl

theorem refused_updates_kept_out :
    ∃ engine, Engine.ofRoot noFiles (.ofText "/") { function := some "$t" } = .ok engine ∧
      let config := ((⟨noFiles, engine⟩ : Session).run updates).engine.config
      config.ignores = ["dist", "**/_*"] ∧
        List.Forall₂ (fun pattern glob => Glob.parse pattern = .ok glob) config.ignores
          (Discovery.Filter.ofSettings config.suffixes config.ignores).ignores ∧
        config.languages.map (·.id) = config.selectors := by
  have hroot : Engine.ofRoot noFiles (.ofText "/") { function := some "$t" } = .ok _ :=
    Engine.ofRoot_valid load_noFiles (by rfl)
  obtain ⟨_, hpatterns, hlanguages, _⟩ := settings_stay_valid hroot noFiles updates
  refine ⟨_, hroot, ?_, hpatterns, hlanguages⟩
  decide +kernel

end Session

end Gloss
