import Gloss.Proofs.Discovery.Walk
import Gloss.Proofs.FileTree.Resolution

namespace Gloss.Discovery

theorem rootNode_of_resolve {tree : FileTree} {root : Path} {base : List String} {node : Node}
    (h : tree.resolve true root = .ok (base, node)) (hd : node.isDirectory = true) :
    rootNode tree root = .ok node := by
  obtain ⟨hs, hleads⟩ := (FileTree.resolve_eq_ok_iff tree true root base node).mp h
  unfold rootNode
  split
  · next e he =>
    rcases hleads.unfollow with hl | ⟨spot, target, hl⟩
    · rw [(FileTree.resolve_eq_ok_iff tree false root _ _).mpr ⟨hs, hl⟩] at he
      cases he
    · rw [(FileTree.resolve_eq_ok_iff tree false root _ _).mpr ⟨hs, hl⟩] at he
      cases he
  · simp [FileTree.node, h, Except.map, hd]
  · next spot there hl he =>
    have hf := ((FileTree.resolve_eq_ok_iff tree false root _ _).mp he).2.follow fun target ht => hl target ht
    rw [(FileTree.resolve_eq_ok_iff tree true root _ _).mpr ⟨hs, hf⟩] at h
    cases h
    rfl

theorem resolve_of_rootNode {tree : FileTree} {root : Path} {node : Node}
    (h : rootNode tree root = .ok node) (hl : ∀ target, node ≠ .link target) :
    ∃ base, tree.resolve true root = .ok (base, node) := by
  unfold rootNode at h
  split at h
  · cases h
  · unfold FileTree.node at h
    split at h
    · cases h
    · next there hn =>
      split at h
      · cases h
        cases hr : tree.resolve true root with
        | error => simp [hr, Except.map] at hn
        | ok found =>
          simp only [hr, Except.map, Except.ok.injEq] at hn
          exact ⟨found.1, by rw [← hn]⟩
      · cases h
        exact absurd rfl (hl _)
  · next spot there _ he =>
    cases h
    obtain ⟨hs, hleads⟩ := (FileTree.resolve_eq_ok_iff tree false root spot node).mp he
    exact ⟨spot, (FileTree.resolve_eq_ok_iff tree true root _ _).mpr ⟨hs, hleads.follow hl⟩⟩

theorem rootNode_wellNamed {tree : FileTree} (ht : tree.WellNamed) {root : Path} {node : Node}
    (h : rootNode tree root = .ok node) : node.WellNamed := by
  cases node with
  | link target => exact .link target
  | file bytes => exact .file bytes
  | directory entries =>
    obtain ⟨base, hr⟩ := resolve_of_rootNode h (by simp)
    exact (ht.find (FileTree.find_of_resolve hr)).2

theorem under_append (root : Path) (names : List String) (s : String) :
    under root (names ++ [s]) = (under root names).join (.ofNames [s]) := by
  simp [under]

theorem under_eq_join (root : Path) {names : List String} (hn : names ≠ []) (h : Path.AreNames names) :
    under root names = root.join (.ofNames names) := by
  induction names using List.reverseRecOn with
  | nil => exact absurd rfl hn
  | append_singleton names s ih =>
    have hnames : Path.AreNames names := fun t ht => h t (by simp [ht])
    rw [under_append]
    by_cases he : names = []
    · subst he
      rfl
    · rw [ih he hnames, Path.join_join_name root he hnames]

theorem goesOn_under (root : Path) {names : List String} (h : Path.AreNames names) :
    root.GoesOn names (under root names) := by
  by_cases hn : names = []
  · subst hn
    exact .refl root
  · rw [under_eq_join root hn h]
    exact Path.goesOn_join root hn h

theorem components_under_inj (root : Path) {names others : List String} (h : Path.AreNames names)
    (h' : Path.AreNames others) (he : (under root names).components = (under root others).components) :
    names = others := by
  rw [(goesOn_under root h).components h, (goesOn_under root h').components h'] at he
  rw [← Path.components_names_inj h h', Path.components_names h, Path.components_names h']
  exact List.append_cancel_left he

theorem isDiscoverable_under (root : String) {names : List String} (h : Path.AreNames names)
    (suffixes ignores : List String) :
    isDiscoverable (.ofText root) (under (.ofText root) names) suffixes ignores =
      (Filter.ofSettings suffixes ignores).admits (.ofNames names) := by
  unfold isDiscoverable
  rw [(goesOn_under (.ofText root) h).stripPrefix? h]

theorem Filter.isExcluded_names (filter : Filter) {names : List String} (h : Path.AreNames names) :
    filter.isExcluded (.ofNames names) = false ↔ filter.Spares [] names := by
  unfold Filter.isExcluded Filter.Spares
  simp only [List.any_eq_false, List.mem_filter, decide_eq_true_eq, Path.mem_ancestors_names h]
  constructor
  · intro hex above hne hp
    have habove : Path.AreNames above := fun s hs => h s (hp.subset hs)
    have := hex (.ofNames above) ⟨⟨above, hp, rfl⟩, by simpa [Path.ofNames, Path.empty] using hne⟩
    simpa [Path.components_names_inj habove h] using this
  · rintro hsp _ ⟨⟨above, hp, rfl⟩, hne⟩
    have habove : Path.AreNames above := fun s hs => h s (hp.subset hs)
    have := hsp above (by rintro rfl; exact hne rfl) hp
    simpa [Path.components_names_inj habove h] using this

theorem Filter.admits_names (filter : Filter) {names : List String} (h : Path.AreNames names) :
    filter.admits (.ofNames names) = true ↔
      (filter.suffixIndex? (.ofNames names)).isSome = true ∧ filter.Spares [] names := by
  rw [Filter.admits, Bool.and_eq_true, Bool.not_eq_true', filter.isExcluded_names h]

theorem Filter.suffixIndex?_lt (filter : Filter) {path : Path} {i : Nat} (h : filter.suffixIndex? path = some i) :
    i < filter.suffixes.length := by
  unfold Filter.suffixIndex? at h
  split at h
  · cases h
  · exact (List.findIdx?_eq_some_iff_getElem.mp h).1

theorem mem_arrange (filter : Filter) (files : List (List String)) (names : List String) :
    names ∈ arrange filter files ↔ names ∈ files ∧ (filter.suffixIndex? (.ofNames names)).isSome = true := by
  simp only [arrange, sort, List.mem_flatMap, List.mem_range, List.mem_mergeSort, List.mem_filter,
    decide_eq_true_eq, Option.isSome_iff_exists]
  constructor
  · rintro ⟨i, _, hm, hi⟩
    exact ⟨hm, i, hi⟩
  · rintro ⟨hm, i, hi⟩
    exact ⟨i, filter.suffixIndex?_lt hi, hm, hi⟩

theorem mem_files_iff {tree : FileTree} (ht : tree.WellNamed) (root : Path) (suffixes ignores : List String)
    (path : Path) :
    path ∈ (ofTree tree root suffixes ignores).files ↔
      ∃ node names bytes, rootNode tree root = .ok node ∧ node.find? names = some (.file bytes) ∧
        (Filter.ofSettings suffixes ignores).admits (.ofNames names) = true ∧ path = under root names := by
  unfold ofTree
  generalize Filter.ofSettings suffixes ignores = filter
  cases hs : filter.suffixes.isEmpty with
  | true =>
    have hnone : ∀ p, filter.suffixIndex? p = none := by
      intro p
      simp [Filter.suffixIndex?, List.isEmpty_iff.mp hs]
    simp [hs, Filter.admits, hnone]
  | false =>
    simp only [hs, Bool.false_eq_true, if_false]
    cases hr : rootNode tree root with
    | error => simp
    | ok node =>
      have hnode := rootNode_wellNamed ht hr
      simp only [List.mem_map, mem_arrange, Except.ok.injEq]
      constructor
      · rintro ⟨names, ⟨hm, hi⟩, rfl⟩
        obtain ⟨⟨bytes, hf⟩, hsp⟩ := (mem_filesBelow filter hnode [] names).mp hm
        exact ⟨node, names, bytes, rfl, hf, (filter.admits_names (hnode.find hf).1).mpr ⟨hi, hsp⟩, rfl⟩
      · rintro ⟨_, names, bytes, rfl, hf, ha, rfl⟩
        obtain ⟨hi, hsp⟩ := (filter.admits_names (hnode.find hf).1).mp ha
        exact ⟨names, ⟨(mem_filesBelow filter hnode [] names).mpr ⟨⟨bytes, hf⟩, hsp⟩, hi⟩, rfl⟩

theorem under_mem_files_iff {tree : FileTree} (ht : tree.WellNamed) {root : Path} {node : Node}
    (hr : rootNode tree root = .ok node) {names : List String} {bytes : ByteArray}
    (hf : node.find? names = some (.file bytes)) (suffixes ignores : List String) :
    under root names ∈ (ofTree tree root suffixes ignores).files ↔
      (Filter.ofSettings suffixes ignores).admits (.ofNames names) = true := by
  rw [mem_files_iff ht]
  constructor
  · rintro ⟨other, others, bytes', hr', hf', ha, he⟩
    obtain rfl : node = other := Except.ok.inj (hr.symm.trans hr')
    have hnode := rootNode_wellNamed ht hr
    rwa [components_under_inj root (hnode.find hf).1 (hnode.find hf').1 (congrArg Path.components he)]
  · intro ha
    exact ⟨node, names, bytes, hr, hf, ha, rfl⟩

end Gloss.Discovery
