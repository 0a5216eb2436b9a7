import Gloss.Proofs.Discovery.Coverage
import Gloss.Proofs.Discovery.Order
import Gloss.Proofs.FileTree.Reordering
import Mathlib

namespace Gloss.Discovery

theorem sort_perm {files others : List (List String)} (h : files.Perm others) : sort files = sort others := by
  have hperm : (sort files).Perm (sort others) :=
    ((List.mergeSort_perm files lexicographic).trans h).trans (List.mergeSort_perm others lexicographic).symm
  refine hperm.eq_of_pairwise ?_ (sort_ascends files) (sort_ascends others)
  intro a b _ _ hab hba
  exact le_antisymm ((lexicographic_iff_le a b).mp hab) ((lexicographic_iff_le b a).mp hba)

theorem arrange_perm (filter : Filter) {files others : List (List String)} (h : files.Perm others) :
    arrange filter files = arrange filter others := by
  unfold arrange
  congr 1
  funext i
  exact sort_perm (h.filter _)

theorem rootNode_reordered {tree other : FileTree} (ht : tree.WellNamed) (h : tree.Reordered other) {root : Path}
    {node : Node} (hr : rootNode tree root = .ok node) :
    ∃ there, rootNode other root = .ok there ∧ node.Reordered there := by
  unfold rootNode at hr
  split at hr
  · cases hr
  · next spot target he =>
    obtain ⟨kept, hkept, hsame⟩ := h.resolve ht he
    obtain rfl := (hsame.link_iff target).mp rfl
    split at hr
    · cases hr
    · next found hn =>
      obtain ⟨there, hthere, hsame⟩ := h.node ht hn
      obtain rfl := Except.ok.inj hr
      refine ⟨if there.isDirectory then there else .link target, by simp [rootNode, hkept, hthere], ?_⟩
      rw [hsame.isDirectory_eq]
      split
      · exact hsame
      · exact .refl _
  · next spot found hl he =>
    cases hr
    obtain ⟨there, hthere, hsame⟩ := h.resolve ht he
    refine ⟨there, ?_, hsame⟩
    cases there with
    | link target => exact absurd ((hsame.link_iff target).mpr rfl) (hl target)
    | file | directory => simp [rootNode, hthere]

mutual

def reached (filter : Filter) (closed : List String → Bool) (names : List String) :
    Node → List (Except (List String) (List String))
  | .file _ => [.ok names]
  | .link _ => []
  | .directory entries => if closed names then [.error names] else reachedOf filter closed names entries

def reachedOf (filter : Filter) (closed : List String → Bool) (names : List String) :
    List (String × Node) → List (Except (List String) (List String))
  | [] => []
  | (name, node) :: rest =>
    (if filter.isIgnored (.ofNames (names ++ [name])) node.isDirectory then []
      else reached filter closed (names ++ [name]) node) ++ reachedOf filter closed names rest

end

/-- Discovery where the directories that `closed` names, from the root, cannot be listed. -/
def ofClosedTree (closed : List String → Bool) (tree : FileTree) (root : Path) (suffixes ignores : List String) :
    Discovery :=
  let filter := Filter.ofSettings suffixes ignores
  if filter.suffixes.isEmpty then ⟨[], 0⟩
  else
    match rootNode tree root with
    | .error _ => ⟨[], 1⟩
    | .ok node =>
      let entries := reached filter closed [] node
      ⟨(arrange filter (entries.filterMap Except.toOption)).map (under root), entries.countP (!·.isOk)⟩

mutual

theorem reached_open (filter : Filter) : ∀ (node : Node) (names : List String),
    reached filter (fun _ => false) names node = (filesBelow filter names node).map .ok
  | .file _, names => by simp [reached, filesBelow]
  | .link _, names => by simp [reached, filesBelow]
  | .directory entries, names => by simpa [reached, filesBelow] using reachedOf_open filter entries names

theorem reachedOf_open (filter : Filter) : ∀ (entries : List (String × Node)) (names : List String),
    reachedOf filter (fun _ => false) names entries = (filesOf filter names entries).map .ok
  | [], names => by simp [reachedOf, filesOf]
  | (name, node) :: rest, names => by
    rw [reachedOf, filesOf, List.map_append, reachedOf_open filter rest, reached_open filter node]
    split <;> simp

end

theorem ofClosedTree_open (tree : FileTree) (root : Path) (suffixes ignores : List String) :
    ofClosedTree (fun _ => false) tree root suffixes ignores = ofTree tree root suffixes ignores := by
  have hfiles (files : List (List String)) :
      (files.map (.ok : List String → Except (List String) (List String))).filterMap Except.toOption = files := by
    rw [List.filterMap_map]
    exact List.filterMap_some
  have hcount (files : List (List String)) :
      (files.map (.ok : List String → Except (List String) (List String))).countP (!·.isOk) = 0 := by
    simp [Except.isOk, Except.toBool]
  unfold ofClosedTree ofTree
  cases rootNode tree root with
  | error => rfl
  | ok node => simp only [reached_open, hfiles, hcount]

mutual

theorem files_reached_sublist (filter : Filter) (closed : List String → Bool) :
    ∀ (node : Node) (names : List String),
      ((reached filter closed names node).filterMap Except.toOption).Sublist (filesBelow filter names node)
  | .file _, names => by simp [reached, filesBelow, Except.toOption]
  | .link _, names => by simp [reached]
  | .directory entries, names => by
    rw [reached, filesBelow]
    split
    · exact List.nil_sublist _
    · exact files_reachedOf_sublist filter closed entries names

theorem files_reachedOf_sublist (filter : Filter) (closed : List String → Bool) :
    ∀ (entries : List (String × Node)) (names : List String),
      ((reachedOf filter closed names entries).filterMap Except.toOption).Sublist (filesOf filter names entries)
  | [], names => by simp [reachedOf, filesOf]
  | (name, node) :: rest, names => by
    rw [reachedOf, filesOf, List.filterMap_append]
    refine List.Sublist.append ?_ (files_reachedOf_sublist filter closed rest names)
    split
    · exact List.nil_sublist _
    · exact files_reached_sublist filter closed node (names ++ [name])

end

theorem reachedOf_eq_flatMap (filter : Filter) (closed : List String → Bool) (names : List String)
    (entries : List (String × Node)) :
    reachedOf filter closed names entries = entries.flatMap fun e =>
      if filter.isIgnored (.ofNames (names ++ [e.1])) e.2.isDirectory then []
      else reached filter closed (names ++ [e.1]) e.2 := by
  induction entries with
  | nil => rfl
  | cons e rest ih =>
    obtain ⟨name, node⟩ := e
    rw [reachedOf, ih, List.flatMap_cons]

theorem reached_perm (filter : Filter) (closed : List String → Bool) {node other : Node}
    (h : node.Reordered other) (names : List String) :
    (reached filter closed names node).Perm (reached filter closed names other) := by
  induction h generalizing names with
  | refl => exact .refl _
  | perm hp =>
    rw [reached, reached]
    split
    · exact .refl _
    · rw [reachedOf_eq_flatMap, reachedOf_eq_flatMap]
      exact hp.flatMap_right _
  | @inside node other front name back hn ih =>
    rw [reached, reached]
    split
    · exact .refl _
    · simp only [reachedOf_eq_flatMap, List.flatMap_append, List.flatMap_cons, hn.isDirectory_eq]
      refine ((List.Perm.append_right _ ?_).append_left _)
      split
      · exact .refl _
      · exact ih _
  | trans _ _ ih ih' => exact (ih names).trans (ih' names)

theorem ofClosedTree_reordered (closed : List String → Bool) {tree other : FileTree} (ht : tree.WellNamed)
    (h : tree.Reordered other) (root : Path) (suffixes ignores : List String) :
    ofClosedTree closed other root suffixes ignores = ofClosedTree closed tree root suffixes ignores := by
  unfold ofClosedTree
  generalize Filter.ofSettings suffixes ignores = filter
  cases hr : rootNode tree root with
  | ok node =>
    obtain ⟨there, hthere, hsame⟩ := rootNode_reordered ht h hr
    have hp := reached_perm filter closed hsame []
    simp only [hthere, arrange_perm filter (hp.filterMap _), hp.countP_eq]
  | error =>
    cases ho : rootNode other root with
    | error => rfl
    | ok node =>
      obtain ⟨there, hthere, _⟩ := rootNode_reordered (h.wellNamed ht) h.symm ho
      rw [hr] at hthere
      cases hthere

/-- Files as they are merged: each once, those of an earlier suffix first, and those whose first suffix
is the same by the components of their paths. -/
structure InOrder (filter : Filter) (root : Path) (files : List Path) : Prop where
  once : (files.map Path.components).Nodup
  grouped : ∀ path ∈ files, (filter.group? root path).isSome = true
  ascending : files.Pairwise (Precedes filter root)

theorem arrange_inOrder (filter : Filter) {node : Node} (hn : node.WellNamed) (root : String)
    {files : List (List String)} (hsub : files.Sublist (filesBelow filter [] node)) :
    InOrder filter (.ofText root) ((arrange filter files).map (under (.ofText root))) := by
  have hnodup := nodup_arrange filter ((nodup_filesBelow filter node [] hn).sublist hsub)
  constructor
  · rw [List.map_map]
    refine List.pairwise_map.mpr (hnodup.imp_of_mem ?_)
    intro a b ha hb hne he
    exact hne (components_under_inj _ (names_of_mem_arrange hn hsub ha) (names_of_mem_arrange hn hsub hb) he)
  · intro path hpath
    obtain ⟨names, hm, rfl⟩ := List.mem_map.mp hpath
    rw [group?_under filter root (names_of_mem_arrange hn hsub hm)]
    exact ((mem_arrange filter files names).mp hm).2
  · exact arrange_ascends filter hn root hsub

theorem ofClosedTree_inOrder (closed : List String → Bool) {tree : FileTree} (ht : tree.WellNamed) (root : String)
    (suffixes ignores : List String) :
    InOrder (Filter.ofSettings suffixes ignores) (.ofText root)
      (ofClosedTree closed tree (.ofText root) suffixes ignores).files := by
  have hnone : InOrder (Filter.ofSettings suffixes ignores) (.ofText root) [] := ⟨.nil, by simp, .nil⟩
  unfold ofClosedTree
  dsimp only
  split
  · exact hnone
  · cases hr : rootNode tree (.ofText root) with
    | error => exact hnone
    | ok node => exact arrange_inOrder _ (rootNode_wellNamed ht hr) root (files_reached_sublist _ closed node [])

theorem admitted_in_group {tree : FileTree} (ht : tree.WellNamed) {root : String} {suffixes ignores names : List String}
    (h : tree.HasFile (.ofText root) names) (ha : (Filter.ofSettings suffixes ignores).admits (.ofNames names) = true) :
    (Path.ofText root).join (.ofNames names) ∈ (ofTree tree (.ofText root) suffixes ignores).files ∧
      (Filter.ofSettings suffixes ignores).group? (.ofText root) ((Path.ofText root).join (.ofNames names)) =
        (Filter.ofSettings suffixes ignores).suffixIndex? (.ofNames names) := by
  have hnames := hasFile_names ht h
  refine ⟨(mem_files_of_hasFile ht h suffixes ignores).mpr ha, ?_⟩
  rw [← under_eq_join _ h.1 hnames, group?_under _ root hnames]

/-- Whatever order directories list their entries in, and whichever of them cannot be listed, the same
files are found in the same order, and as many entries are skipped. Where all can be listed, every file
that is admitted is among them, in the group of its first suffix. -/
theorem merge_order_canonical {tree : FileTree} (ht : tree.WellNamed) (root : String)
    (suffixes ignores : List String) :
    (∀ closed : List String → Bool,
      InOrder (Filter.ofSettings suffixes ignores) (.ofText root)
        (ofClosedTree closed tree (.ofText root) suffixes ignores).files ∧
      ∀ other, tree.Reordered other →
        ofClosedTree closed other (.ofText root) suffixes ignores =
          ofClosedTree closed tree (.ofText root) suffixes ignores) ∧
    ofClosedTree (fun _ => false) tree (.ofText root) suffixes ignores = ofTree tree (.ofText root) suffixes ignores ∧
    ∀ names, tree.HasFile (.ofText root) names → (Filter.ofSettings suffixes ignores).admits (.ofNames names) = true →
      (Path.ofText root).join (.ofNames names) ∈ (ofTree tree (.ofText root) suffixes ignores).files ∧
        (Filter.ofSettings suffixes ignores).group? (.ofText root) ((Path.ofText root).join (.ofNames names)) =
          (Filter.ofSettings suffixes ignores).suffixIndex? (.ofNames names) := by
  refine ⟨fun closed => ⟨ofClosedTree_inOrder closed ht root suffixes ignores, fun other h => ?_⟩,
    ofClosedTree_open tree _ suffixes ignores, fun names h ha => admitted_in_group ht h ha⟩
  exact ofClosedTree_reordered closed ht h _ suffixes ignores

def projectTree (project : Node) : FileTree := ⟨.directory [("p", project)], []⟩

def listedProject : Node :=
  .directory [("i18n", .directory [("b.properties", .file .empty), ("c.properties", .file .empty)]),
    ("a.de.properties", .file .empty)]

def relistedProject : Node :=
  .directory [("a.de.properties", .file .empty),
    ("i18n", .directory [("c.properties", .file .empty), ("b.properties", .file .empty)])]

theorem relistedProject_reordered : listedProject.Reordered relistedProject :=
  .trans (.perm (.swap _ _ _)) (.inside [_] "i18n" [] (.perm (.swap _ _ _)))

theorem relisted_dictionaries_found_alike :
    (projectTree listedProject).WellNamed ∧ (projectTree listedProject).Reordered (projectTree relistedProject) ∧
      InOrder (Filter.ofSettings [".de.properties", "[", ".properties"] []) (.ofText "/p")
        (ofTree (projectTree listedProject) (.ofText "/p") [".de.properties", "[", ".properties"] []).files ∧
      ofTree (projectTree relistedProject) (.ofText "/p") [".de.properties", "[", ".properties"] [] =
        ofTree (projectTree listedProject) (.ofText "/p") [".de.properties", "[", ".properties"] [] ∧
      ((Path.ofText "/p").join (.ofNames ["a.de.properties"]) ∈
          (ofTree (projectTree listedProject) (.ofText "/p") [".de.properties", "[", ".properties"] []).files ∧
        (Filter.ofSettings [".de.properties", "[", ".properties"] []).group? (.ofText "/p")
          ((Path.ofText "/p").join (.ofNames ["a.de.properties"])) = some 0) ∧
      (ofClosedTree (fun names => names = ["i18n"]) (projectTree relistedProject) (.ofText "/p")
        [".de.properties", "[", ".properties"] []).skipped = 1 := by
  have ht : (projectTree listedProject).WellNamed := by decide
  have h : (projectTree listedProject).Reordered (projectTree relistedProject) :=
    ⟨.inside [] "p" [] relistedProject_reordered, rfl⟩
  have hroot : rootNode (projectTree listedProject) (.ofText "/p") = .ok listedProject := by cbv
  have hfile : (projectTree listedProject).HasFile (.ofText "/p") ["a.de.properties"] :=
    ⟨by decide, listedProject, .empty, by cbv, rfl⟩
  obtain ⟨hclosed, hopen, hadmitted⟩ := merge_order_canonical ht "/p" [".de.properties", "[", ".properties"] []
  obtain ⟨horder, hsame⟩ := hclosed fun _ => false
  obtain ⟨hlisted, hgroup⟩ := hadmitted ["a.de.properties"] hfile (by decide +kernel)
  refine ⟨ht, h, ?_, ?_, ⟨hlisted, ?_⟩, ?_⟩
  · rw [← hopen]
    exact horder
  · rw [← hopen, ← hsame _ h, ofClosedTree_open]
  · rw [hgroup]
    decide +kernel
  · rw [(hclosed fun names => names = ["i18n"]).2 _ h]
    simp only [ofClosedTree, hroot]
    decide +kernel

end Gloss.Discovery
