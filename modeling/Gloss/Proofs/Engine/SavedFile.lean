import Gloss.Proofs.Discovery.Coverage
import Gloss.Proofs.Engine.Reload

namespace Gloss

namespace FileTree

def SameFile (tree : FileTree) (p q : Path) : Prop :=
  ∃ place bytes, tree.resolve true p = .ok (place, .file bytes) ∧ tree.resolve true q = .ok (place, .file bytes)

def LeadsBelow (tree : FileTree) (root : Path) (names : List String) (path : Path) : Prop :=
  ∃ base node bytes, tree.resolve true root = .ok (base, node) ∧ Discovery.rootNode tree root = .ok node ∧
    tree.resolve true path = .ok (base ++ names, .file bytes)

theorem resolve_of_loadFile {tree : FileTree} {path : Path} {entries : Dictionary}
    (h : loadFile tree path = .ok entries) : ∃ place bytes, tree.resolve true path = .ok (place, .file bytes) := by
  unfold loadFile readText node at h
  cases hr : tree.resolve true path with
  | error e => simp [hr, Except.map, bind, Except.bind] at h
  | ok found =>
    obtain ⟨place, node⟩ := found
    cases node with
    | file bytes => exact ⟨place, bytes, rfl⟩
    | link target => simp [hr, Except.map, bind, Except.bind] at h
    | directory entries => simp [hr, Except.map, bind, Except.bind] at h

theorem resolve_under {tree : FileTree} {root : Path} {base names : List String} {node : Node} {bytes : ByteArray}
    (h : tree.resolve true root = .ok (base, node)) (hnames : Path.AreNames names)
    (hf : node.find? names = some (.file bytes)) :
    tree.resolve true (Discovery.under root names) = .ok (base ++ names, .file bytes) := by
  by_cases hn : names = []
  · subst hn
    cases hf
    rw [List.append_nil]
    exact h
  · rw [Discovery.under_eq_join root hn hnames]
    exact resolve_join h hn hnames hf (by simp)

theorem leadsBelow_of_hasFile {tree : FileTree} (ht : tree.WellNamed) {root : Path} {names : List String}
    (h : tree.HasFile root names) : tree.LeadsBelow root names (root.join (.ofNames names)) := by
  have hnames := Discovery.hasFile_names ht h
  obtain ⟨node, bytes, hr, hf⟩ := Discovery.rootNode_of_hasFile h
  obtain ⟨base, hroot⟩ := Discovery.resolve_of_rootNode hr (Node.not_link_of_find hf)
  refine ⟨base, node, bytes, hroot, hr, ?_⟩
  rw [← Discovery.under_eq_join root h.1 hnames]
  exact resolve_under hroot hnames hf

end FileTree

namespace Engine

def Lists (engine : Engine) (tree : FileTree) (path : Path) : Prop :=
  ∃ listed ∈ (engine.discover tree).files, tree.SameFile path listed

theorem merged_iff (engine : Engine) (tree : FileTree) (path : Path) (keys : Nat) :
    (engine.reloadFile tree path).1 = .merged keys ↔
      (Format.ofPath? path).isSome = true ∧ engine.admits (engine.root.join path) = true ∧
        ∃ entries, loadFile tree (engine.root.join path) = .ok entries ∧ entries.size = keys := by
  unfold reloadFile
  dsimp only
  cases Format.ofPath? path with
  | none => simp
  | some format =>
    cases engine.admits (engine.root.join path) with
    | false => simp
    | true => cases loadFile tree (engine.root.join path) <;> simp

theorem lists_iff {tree : FileTree} (ht : tree.WellNamed) (engine : Engine) (path : Path) :
    engine.Lists tree path ↔
      ∃ names, tree.LeadsBelow engine.root names path ∧ engine.filter.admits (.ofNames names) = true := by
  unfold Lists discover filter
  constructor
  · rintro ⟨listed, hm, place, bytes, hpath, hlisted⟩
    obtain ⟨node, names, bytes', hr, hf, ha, rfl⟩ := (Discovery.mem_files_iff ht _ _ _ _).mp hm
    obtain ⟨base, hroot⟩ := Discovery.resolve_of_rootNode hr (Node.not_link_of_find hf)
    have hunder := FileTree.resolve_under hroot ((Discovery.rootNode_wellNamed ht hr).find hf).1 hf
    obtain ⟨rfl, hbytes⟩ := Prod.mk.inj (Except.ok.inj (hlisted.symm.trans hunder))
    exact ⟨names, ⟨base, node, bytes, hroot, hr, hpath⟩, ha⟩
  · rintro ⟨names, ⟨base, node, bytes, hroot, hr, hpath⟩, ha⟩
    -- both the root's node and the file stand where their paths lead, so the names lead from one to the other
    have hf : node.find? names = some (.file bytes) := by
      have := FileTree.find_of_resolve hpath
      rwa [Node.find?_append, FileTree.find_of_resolve hroot, Option.bind_some] at this
    refine ⟨Discovery.under engine.root names, (Discovery.mem_files_iff ht _ _ _ _).mpr ?_, base ++ names, bytes, hpath, ?_⟩
    · exact ⟨node, names, bytes, hr, hf, ha, rfl⟩
    · exact FileTree.resolve_under hroot ((Discovery.rootNode_wellNamed ht hr).find hf).1 hf

theorem admits_plain {engine : Engine} {root : String} (hroot : engine.root = .ofText root) {names : List String}
    (hn : names ≠ []) (hnames : Path.AreNames names) :
    engine.admits (engine.root.join (.ofNames names)) = engine.filter.admits (.ofNames names) := by
  rw [admits, filter, ← Discovery.under_eq_join engine.root hn hnames, hroot]
  exact Discovery.isDiscoverable_under root hnames _ _

/-- A merged file is a regular file. A reload lists it just when the path leads below the root by names
that the filter admits, as a path of plain names below the root does. -/
theorem merged_listed_iff {tree : FileTree} (ht : tree.WellNamed) {engine : Engine} {root : String}
    (hroot : engine.root = .ofText root) {path : Path} {keys : Nat}
    (h : (engine.reloadFile tree path).1 = .merged keys) :
    (∃ place bytes, tree.resolve true (engine.root.join path) = .ok (place, .file bytes)) ∧
      (engine.Lists tree (engine.root.join path) ↔
        ∃ names, tree.LeadsBelow engine.root names (engine.root.join path) ∧ engine.filter.admits (.ofNames names) = true) ∧
      (∀ names, tree.HasFile engine.root names → engine.root.join path = engine.root.join (.ofNames names) →
        engine.Lists tree (engine.root.join path)) := by
  obtain ⟨_, ha, entries, hl, _⟩ := (merged_iff engine tree path keys).mp h
  refine ⟨FileTree.resolve_of_loadFile hl, lists_iff ht engine _, fun names hfile hplain => ?_⟩
  rw [hplain] at ha ⊢
  rw [admits_plain hroot hfile.1 (Discovery.hasFile_names ht hfile)] at ha
  exact (lists_iff ht engine _).mpr ⟨names, FileTree.leadsBelow_of_hasFile ht hfile, ha⟩

def plainEngine : Engine where
  root := .ofText "/p"
  config := {}

theorem nested_dictionary_merged :
    Discovery.nestedTree.WellNamed ∧ plainEngine.root = .ofText "/p" ∧
      (plainEngine.reloadFile Discovery.nestedTree (.ofText "i18n/en.properties")).1 = .merged 0 ∧
      plainEngine.Lists Discovery.nestedTree (plainEngine.root.join (.ofText "i18n/en.properties")) := by
  have ht : Discovery.nestedTree.WellNamed := by decide
  have hroot : plainEngine.root = .ofText "/p" := rfl
  have h : (plainEngine.reloadFile Discovery.nestedTree (.ofText "i18n/en.properties")).1 = .merged 0 :=
    (merged_iff _ _ _ _).mpr ⟨by decide +kernel, by decide +kernel, ∅, by cbv, rfl⟩
  exact ⟨ht, hroot, h, (merged_listed_iff ht hroot h).2.2 _ Discovery.nestedTree_hasFile (by decide +kernel)⟩

def besideTree : FileTree :=
  ⟨.directory [("p", .directory []), ("out.properties", .file ⟨#[97, 61, 65]⟩)], []⟩

/-- A file beside the root is merged if its path starts at the root. -/
theorem file_beside_root_merged :
    besideTree.WellNamed ∧ (plainEngine.reloadFile besideTree (.ofText "../out.properties")).1 = .merged 1 ∧
      ¬ plainEngine.Lists besideTree (plainEngine.root.join (.ofText "../out.properties")) := by
  have hmerged : (plainEngine.reloadFile besideTree (.ofText "../out.properties")).1 = .merged 1 :=
    (merged_iff _ _ _ _).mpr ⟨by decide +kernel, by decide +kernel, Dictionary.ofPairs [("a", "A")], by cbv, by decide⟩
  refine ⟨by decide, hmerged, ?_⟩
  rw [lists_iff (by decide)]
  rintro ⟨names, ⟨base, node, bytes, hroot, _, hpath⟩, _⟩
  have hbase : besideTree.resolve true (.ofText "/p") = .ok (["p"], .directory []) := by cbv
  have hout : besideTree.resolve true (plainEngine.root.join (.ofText "../out.properties")) =
    .ok (["out.properties"], .file ⟨#[97, 61, 65]⟩) := by cbv
  obtain ⟨rfl, _⟩ := Prod.mk.inj (Except.ok.inj (hbase.symm.trans hroot))
  obtain ⟨hp, _⟩ := Prod.mk.inj (Except.ok.inj (hout.symm.trans hpath))
  simp at hp

end Engine

end Gloss
