import Gloss.Proofs.Discovery.Listing
import Mathlib

/-!
Judging a file by the spelling of its path agrees with walking down to it. A file that no ignore
pattern covers is listed, unless a pattern covers the name `_` in a directory above it.
-/

namespace Gloss

/-- A regular file below the root that names lead to through directories alone. -/
def FileTree.HasFile (tree : FileTree) (root : Path) (names : List String) : Prop :=
  names ≠ [] ∧ ∃ node bytes, tree.node root = .ok node ∧ node.find? names = some (.file bytes)

namespace Discovery

def Covers (pattern : String) (names : List String) : Prop :=
  ∃ glob, Glob.parse pattern = .ok glob ∧ glob.hits ("/".intercalate names) = true

instance (pattern : String) (names : List String) : Decidable (Covers pattern names) :=
  decidable_of_iff ((Glob.parse pattern).toOption.any (·.hits ("/".intercalate names)) = true) <| by
    unfold Covers
    cases Glob.parse pattern <;> simp [Except.toOption]

theorem rootNode_of_hasFile {tree : FileTree} {root : Path} {names : List String} (h : tree.HasFile root names) :
    ∃ node bytes, rootNode tree root = .ok node ∧ node.find? names = some (.file bytes) := by
  obtain ⟨hn, node, bytes, hroot, hf⟩ := h
  unfold FileTree.node at hroot
  cases hr : tree.resolve true root with
  | error => simp [hr, Except.map] at hroot
  | ok found =>
    obtain ⟨base, there⟩ := found
    obtain rfl : there = node := by simpa [hr, Except.map] using hroot
    have hd : there.isDirectory = true := by rw [Node.isDirectory_of_find hf, decide_eq_true hn]
    exact ⟨there, bytes, rootNode_of_resolve hr hd, hf⟩

theorem hasFile_names {tree : FileTree} (ht : tree.WellNamed) {root : Path} {names : List String}
    (h : tree.HasFile root names) : Path.AreNames names := by
  obtain ⟨node, bytes, hr, hf⟩ := rootNode_of_hasFile h
  exact ((rootNode_wellNamed ht hr).find hf).1

theorem mem_files_of_hasFile {tree : FileTree} (ht : tree.WellNamed) {root : Path} {names : List String}
    (h : tree.HasFile root names) (suffixes ignores : List String) :
    root.join (.ofNames names) ∈ (ofTree tree root suffixes ignores).files ↔
      (Filter.ofSettings suffixes ignores).admits (.ofNames names) = true := by
  obtain ⟨node, bytes, hr, hf⟩ := rootNode_of_hasFile h
  rw [← under_eq_join root h.1 (hasFile_names ht h)]
  exact under_mem_files_iff ht hr hf suffixes ignores

def nestedTree : FileTree :=
  ⟨.directory [("p", .directory [("i18n", .directory [("en.properties", .file .empty)])])], []⟩

theorem nestedTree_hasFile : nestedTree.HasFile (.ofText "/p") ["i18n", "en.properties"] :=
  ⟨by decide, .directory [("i18n", .directory [("en.properties", .file .empty)])], .empty, by cbv, rfl⟩

/-- The judgement on the spelling of a plain path is that of the walk. -/
theorem isDiscoverable_iff_listed {tree : FileTree} (ht : tree.WellNamed) (root : String) {names : List String}
    (h : tree.HasFile (.ofText root) names) (suffixes ignores : List String) :
    isDiscoverable (.ofText root) ((Path.ofText root).join (.ofNames names)) suffixes ignores = true ↔
      (Path.ofText root).join (.ofNames names) ∈ (ofTree tree (.ofText root) suffixes ignores).files := by
  have hnames := hasFile_names ht h
  rw [mem_files_of_hasFile ht h, ← under_eq_join _ h.1 hnames, isDiscoverable_under root hnames]

theorem nested_dictionary_listed :
    nestedTree.WellNamed ∧ nestedTree.HasFile (.ofText "/p") ["i18n", "en.properties"] ∧
      (Path.ofText "/p").join (.ofNames ["i18n", "en.properties"]) ∈
        (ofTree nestedTree (.ofText "/p") [".properties"] ["[", "dist"]).files := by
  have ht : nestedTree.WellNamed := by decide
  refine ⟨ht, nestedTree_hasFile, ?_⟩
  rw [← isDiscoverable_iff_listed ht "/p" nestedTree_hasFile]
  decide +kernel

theorem mem_patterns (texts : List String) (g : Glob) : g ∈ Filter.patterns texts ↔ ∃ t ∈ texts, Glob.parse t = .ok g := by
  unfold Filter.patterns
  rw [List.mem_filterMap]
  refine exists_congr fun t => and_congr_right fun _ => ?_
  cases Glob.parse t <;> simp [Except.toOption]

theorem text_names (names : List String) : (Path.ofNames names).text = "/".intercalate names := by
  simp [Path.text, Path.ofNames]

theorem exists_pattern_hits (texts names : List String) :
    (∃ g ∈ Filter.patterns texts, g.hits (Path.ofNames names).text = true) ↔ ∃ t ∈ texts, Covers t names := by
  simp only [mem_patterns, text_names, Covers]
  constructor
  · rintro ⟨g, ⟨t, ht, hp⟩, hg⟩
    exact ⟨t, ht, g, hp, hg⟩
  · rintro ⟨t, ht, g, hp, hg⟩
    exact ⟨g, ⟨t, ht, hp⟩, hg⟩

theorem isIgnored_names (suffixes ignores : List String) {names : List String} (hn : names ≠ [])
    (h : Path.AreNames names) (isDirectory : Bool) :
    (Filter.ofSettings suffixes ignores).isIgnored (.ofNames names) isDirectory = false ↔
      ∀ t ∈ ignores, ¬ Covers t names ∧ (isDirectory = true → ¬ Covers t (names ++ ["_"])) := by
  have hprobe : (Path.ofNames names).join (.ofText "_") = .ofNames (names ++ ["_"]) := by
    obtain ⟨front, s, rfl⟩ := (List.eq_nil_or_concat names).resolve_left hn
    rw [List.concat_eq_append] at *
    rw [show Path.ofText "_" = .ofNames ["_"] from rfl, Path.join_names _ (by simp)]
    simp [Path.ofNames, Path.stem_append_name front (h s (by simp))]
  have hself := exists_pattern_hits ignores names
  have hchild := exists_pattern_hits ignores (names ++ ["_"])
  simp only [Filter.isIgnored, Filter.ofSettings, hprobe, List.any_eq_false, Bool.or_eq_true, Bool.and_eq_true,
    not_or, not_and]
  constructor
  · intro hg t ht
    constructor
    · intro hc
      obtain ⟨g, hm, hh⟩ := hself.mpr ⟨t, ht, hc⟩
      exact (hg g hm).1 hh
    · intro hd hc
      obtain ⟨g, hm, hh⟩ := hchild.mpr ⟨t, ht, hc⟩
      exact (hg g hm).2 hd hh
  · intro ht g hm
    constructor
    · intro hh
      obtain ⟨t, hm, hc⟩ := hself.mp ⟨g, hm, hh⟩
      exact (ht t hm).1 hc
    · intro hd hh
      obtain ⟨t, hm, hc⟩ := hchild.mp ⟨g, hm, hh⟩
      exact (ht t hm).2 hd hc

theorem fileName?_names {names : List String} (h : Path.AreNames names) :
    (Path.ofNames names).fileName? = names.getLast? := by
  rw [Path.fileName?, Path.parts_names h, Path.trimEnd_names h]
  cases hl : names.getLast? with
  | none => rfl
  | some s =>
    have := (h s (List.mem_of_getLast? hl)).2.1
    simp [this]

theorem suffixIndex?_isSome (suffixes ignores : List String) {names : List String} (h : Path.AreNames names) :
    ((Filter.ofSettings suffixes ignores).suffixIndex? (.ofNames names)).isSome = true ↔
      names.getLast? ≠ some configName ∧ ∃ s ∈ suffixes, Covers ("**/*" ++ s) names := by
  have hhits := exists_pattern_hits (suffixes.map Filter.suffixPattern) names
  rw [Filter.suffixIndex?, fileName?_names h]
  split
  · next hc => simp [hc]
  · next hc =>
    simp only [Filter.ofSettings, List.findIdx?_isSome, List.any_eq_true, hhits, List.mem_map]
    simp [hc, Filter.suffixPattern]

theorem admits_iff (suffixes ignores : List String) {names : List String} (h : Path.AreNames names) :
    (Filter.ofSettings suffixes ignores).admits (.ofNames names) = true ↔
      (names.getLast? ≠ some configName ∧ ∃ s ∈ suffixes, Covers ("**/*" ++ s) names) ∧
        ∀ above ≠ [], above <+: names → ∀ t ∈ ignores,
          ¬ Covers t above ∧ (above ≠ names → ¬ Covers t (above ++ ["_"])) := by
  rw [Filter.admits_names _ h, suffixIndex?_isSome suffixes ignores h]
  refine and_congr_right fun _ => forall_congr' fun above => forall_congr' fun hne => forall_congr' fun hp => ?_
  rw [List.nil_append, isIgnored_names suffixes ignores hne fun s hs => h s (hp.subset hs)]
  simp

/-- A file that no ignore pattern covers, nor a directory above it, is listed just when no pattern
covers the name `_` in a directory above it either. -/
theorem listed_iff_probe_uncovered {tree : FileTree} (ht : tree.WellNamed) {root : Path} {names : List String}
    (h : tree.HasFile root names) {suffixes ignores : List String}
    (hsuffix : ∃ s ∈ suffixes, Covers ("**/*" ++ s) names) (hname : names.getLast? ≠ some configName)
    (huncovered : ∀ above ≠ [], above <+: names → ∀ t ∈ ignores, ¬ Covers t above) :
    root.join (.ofNames names) ∈ (ofTree tree root suffixes ignores).files ↔
      ∀ above ≠ [], above <+: names → above ≠ names → ∀ t ∈ ignores, ¬ Covers t (above ++ ["_"]) := by
  rw [mem_files_of_hasFile ht h, admits_iff suffixes ignores (hasFile_names ht h)]
  constructor
  · rintro ⟨_, hspared⟩ above hne hp hproper t hm
    exact (hspared above hne hp t hm).2 hproper
  · intro hprobe
    refine ⟨⟨hname, hsuffix⟩, fun above hne hp t hm => ⟨huncovered above hne hp t hm, fun hproper => ?_⟩⟩
    exact hprobe above hne hp hproper t hm

theorem nestedTree_above {property : List String → Prop}
    (h : ∀ above ∈ ["i18n", "en.properties"].inits, above ≠ [] → property above) :
    ∀ above ≠ [], above <+: ["i18n", "en.properties"] → property above :=
  fun above hne hp => h above ((List.mem_inits _ _).mpr hp) hne

theorem file_listed_beside_ignored_directories :
    nestedTree.WellNamed ∧ nestedTree.HasFile (.ofText "/p") ["i18n", "en.properties"] ∧
      (∃ s ∈ [".json", ".properties"], Covers ("**/*" ++ s) ["i18n", "en.properties"]) ∧
      ["i18n", "en.properties"].getLast? ≠ some configName ∧
      (∀ above ≠ [], above <+: ["i18n", "en.properties"] →
        ∀ t ∈ ["dist", "**/node_modules/**"], ¬ Covers t above) ∧
      (Path.ofText "/p").join (.ofNames ["i18n", "en.properties"]) ∈
        (ofTree nestedTree (.ofText "/p") [".json", ".properties"] ["dist", "**/node_modules/**"]).files := by
  have ht : nestedTree.WellNamed := by decide
  have hsuffix : ∃ s ∈ [".json", ".properties"], Covers ("**/*" ++ s) ["i18n", "en.properties"] := by decide
  have hname : ["i18n", "en.properties"].getLast? ≠ some configName := by decide
  have huncovered : ∀ above ≠ [], above <+: ["i18n", "en.properties"] →
    ∀ t ∈ ["dist", "**/node_modules/**"], ¬ Covers t above := nestedTree_above (by decide)
  refine ⟨ht, nestedTree_hasFile, hsuffix, hname, huncovered, ?_⟩
  exact (listed_iff_probe_uncovered ht nestedTree_hasFile hsuffix hname huncovered).mpr (nestedTree_above (by decide))

/-- The pattern `**/_*` covers neither `i18n` nor `i18n/en.properties`, but it covers `i18n/_`, and so
the file is lost. -/
theorem underscore_pattern_hides_directory :
    nestedTree.WellNamed ∧ nestedTree.HasFile (.ofText "/p") ["i18n", "en.properties"] ∧
      (Glob.parse "**/_*").isOk = true ∧ Covers "**/*.properties" ["i18n", "en.properties"] ∧
      ["i18n", "en.properties"].getLast? ≠ some configName ∧
      (∀ above ≠ [], above <+: ["i18n", "en.properties"] → ¬ Covers "**/_*" above) ∧
      (Path.ofText "/p").join (.ofNames ["i18n", "en.properties"]) ∉
        (ofTree nestedTree (.ofText "/p") [".properties"] ["**/_*"]).files := by
  refine ⟨by decide, nestedTree_hasFile, by decide, by decide, by decide, nestedTree_above (by decide), ?_⟩
  rw [mem_files_of_hasFile (by decide) nestedTree_hasFile, admits_iff _ _ (by decide)]
  rintro ⟨_, hspared⟩
  exact (hspared ["i18n"] (by decide) (by decide) "**/_*" (by decide)).2 (by decide) (by decide)

end Discovery

end Gloss
