import Gloss.Engine
import Gloss.Proofs.Dictionary.Layers
import Gloss.Proofs.Discovery.Order
import Mathlib

namespace Gloss.Engine

def filter (engine : Engine) : Discovery.Filter :=
  .ofSettings engine.config.suffixes engine.config.ignores

structure Decides (engine : Engine) (tree : FileTree) (key : String) (path : Path) (value : String) : Prop where
  listed : path ∈ (engine.discover tree).files
  gives : tree.value? path key = some value
  last : ∀ other ∈ (engine.discover tree).files, other ≠ path → (tree.value? other key).isSome = true →
    Discovery.Precedes engine.filter engine.root other path

theorem reload_forgets (engine : Engine) (tree : FileTree) (earlier : Dictionary) :
    { engine with dictionary := earlier }.reload tree = engine.reload tree := by
  unfold reload discover
  rfl

theorem getElem?_reload (engine : Engine) (tree : FileTree) (key : String) :
    (engine.reload tree).2.dictionary[key]? = (engine.discover tree).files.reverse.findSome? (tree.value? · key) := by
  simp only [reload]
  exact Loading.getElem?_merge_ofFiles tree (engine.discover tree).files key

theorem discover_ascends {tree : FileTree} (ht : tree.WellNamed) {engine : Engine} {root : String}
    (hroot : engine.root = .ofText root) :
    (engine.discover tree).files.Pairwise (Discovery.Precedes engine.filter engine.root) := by
  rw [discover, hroot]
  exact Discovery.files_ascend ht root engine.config.suffixes engine.config.ignores

theorem reload_gives_iff {tree : FileTree} (ht : tree.WellNamed) {engine : Engine} {root : String}
    (hroot : engine.root = .ofText root) (key value : String) :
    (engine.reload tree).2.dictionary[key]? = some value ↔ ∃ path, engine.Decides tree key path value := by
  rw [getElem?_reload, findSome?_reverse_iff (discover_ascends ht hroot)]
  constructor
  · rintro ⟨path, hm, hv, hlast⟩
    exact ⟨path, hm, hv, hlast⟩
  · rintro ⟨path, hm, hv, hlast⟩
    exact ⟨path, hm, hv, hlast⟩

theorem reload_lacks_iff (engine : Engine) (tree : FileTree) (key : String) :
    (engine.reload tree).2.dictionary[key]? = none ↔
      ∀ path ∈ (engine.discover tree).files, tree.value? path key = none := by
  rw [getElem?_reload, List.findSome?_eq_none_iff]
  simp

theorem reload_counts_files (engine : Engine) (tree : FileTree) :
    (engine.reload tree).1.filesLoaded + (engine.reload tree).1.warnings.length =
      (engine.discover tree).files.length := by
  simp only [reload]
  exact Loading.length_ofFiles tree (engine.discover tree).files

theorem reload_counts_keys (engine : Engine) (tree : FileTree) :
    (engine.reload tree).1.keyCount = (engine.reload tree).2.dictionary.keys.length := by
  simp only [reload]
  exact Std.ExtTreeMap.length_keys.symm

/-- A reload tells each key by the tree and the settings alone, and counts the files and keys it saw. -/
theorem reload_determined {tree : FileTree} (ht : tree.WellNamed) {engine : Engine} {root : String}
    (hroot : engine.root = .ofText root) :
    (∀ earlier : Dictionary, { engine with dictionary := earlier }.reload tree = engine.reload tree) ∧
      (∀ key value, (engine.reload tree).2.dictionary[key]? = some value ↔
        ∃ path, engine.Decides tree key path value) ∧
      (∀ key, (engine.reload tree).2.dictionary[key]? = none ↔
        ∀ path ∈ (engine.discover tree).files, tree.value? path key = none) ∧
      (engine.reload tree).1.filesLoaded + (engine.reload tree).1.warnings.length =
        (engine.discover tree).files.length ∧
      (engine.reload tree).1.keyCount = (engine.reload tree).2.dictionary.keys.length :=
  ⟨reload_forgets engine tree, reload_gives_iff ht hroot, reload_lacks_iff engine tree, reload_counts_files engine tree,
    reload_counts_keys engine tree⟩

def overlapping : Node :=
  .directory [("z.b.properties", .file ⟨#[107, 61, 49]⟩), ("a.properties", .file ⟨#[107, 61, 50]⟩),
    ("m.properties", .file ⟨#[255]⟩)]

def overlappingTree : FileTree := ⟨.directory [("p", overlapping)], []⟩

def overlappingEngine : Engine where
  root := .ofText "/p"
  config := { suffix := ".b.properties,.properties", ignores := [] }
  dictionary := Dictionary.ofPairs [("k", "0")]

theorem overlapping_files : (overlappingEngine.discover overlappingTree).files =
    ["/p/z.b.properties", "/p/a.properties", "/p/m.properties"].map .ofText := by
  have hsuffixes : overlappingEngine.config.suffixes = [".b.properties", ".properties"] := by decide +kernel
  have hroot : Discovery.rootNode overlappingTree overlappingEngine.root = .ok overlapping := by cbv
  let filter := Discovery.Filter.ofSettings [".b.properties", ".properties"] []
  have hgroups : Discovery.arrange filter (Discovery.filesBelow filter [] overlapping) =
    Discovery.sort [["z.b.properties"]] ++ (Discovery.sort [["a.properties"], ["m.properties"]] ++ []) := rfl
  have hsort : Discovery.sort [["z.b.properties"]] ++ (Discovery.sort [["a.properties"], ["m.properties"]] ++ []) =
    [["z.b.properties"], ["a.properties"], ["m.properties"]] := by cbv
  rw [discover, hsuffixes, Discovery.ofTree, if_neg (by decide), hroot]
  dsimp only
  rw [show overlappingEngine.config.ignores = [] from rfl, hgroups, hsort]
  decide

theorem later_suffix_gives_value :
    overlappingTree.WellNamed ∧ overlappingEngine.root = .ofText "/p" ∧
      (overlappingEngine.reload overlappingTree).2.dictionary["k"]? = some "2" := by
  have ht : overlappingTree.WellNamed := by decide
  have hroot : overlappingEngine.root = .ofText "/p" := rfl
  refine ⟨ht, hroot, ((reload_determined ht hroot).2.1 "k" "2").mpr ⟨.ofText "/p/a.properties", ?_, by cbv, ?_⟩⟩
  · rw [overlapping_files]
    decide
  · rw [overlapping_files]
    intro other hm hne hsome
    simp only [List.map_cons, List.map_nil, List.mem_cons, List.not_mem_nil, or_false] at hm
    rcases hm with rfl | rfl | rfl
    · exact ⟨0, 1, by decide +kernel, by decide +kernel, Or.inl Nat.zero_lt_one⟩
    · exact absurd rfl hne
    · have hnone : overlappingTree.value? (.ofText "/p/m.properties") "k" = none := by cbv
      simp [hnone] at hsome

end Gloss.Engine
