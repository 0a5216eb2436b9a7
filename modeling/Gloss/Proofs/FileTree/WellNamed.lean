import Gloss.FileTree
import Gloss.Proofs.Entries
import Gloss.Proofs.Path.Names

namespace Gloss

namespace Node

inductive WellNamed : Node → Prop
  | file (bytes : ByteArray) : WellNamed (.file bytes)
  | link (target : Path) : WellNamed (.link target)
  | directory {entries : List (String × Node)} (names : ∀ e ∈ entries, Path.IsName e.1)
      (distinct : (entries.map (·.1)).Nodup) (nodes : ∀ e ∈ entries, WellNamed e.2) :
      WellNamed (.directory entries)

theorem WellNamed.names {entries : List (String × Node)} (h : WellNamed (.directory entries)) :
    ∀ e ∈ entries, Path.IsName e.1 := by cases h with | directory names _ _ => exact names

theorem WellNamed.distinct {entries : List (String × Node)} (h : WellNamed (.directory entries)) :
    (entries.map (·.1)).Nodup := by cases h with | directory _ distinct _ => exact distinct

theorem WellNamed.nodes {entries : List (String × Node)} (h : WellNamed (.directory entries)) :
    ∀ e ∈ entries, WellNamed e.2 := by cases h with | directory _ _ nodes => exact nodes

mutual

def isWellNamed : Node → Bool
  | file _ | link _ => true
  | directory entries => decide (entries.map (·.1)).Nodup && areWellNamed entries

def areWellNamed : List (String × Node) → Bool
  | [] => true
  | (name, node) :: rest => decide (Path.IsName name) && node.isWellNamed && areWellNamed rest

end

mutual

theorem isWellNamed_iff : ∀ node : Node, node.isWellNamed = true ↔ node.WellNamed
  | file bytes => by simp [isWellNamed, WellNamed.file]
  | link target => by simp [isWellNamed, WellNamed.link]
  | directory entries => by
    rw [isWellNamed, Bool.and_eq_true, decide_eq_true_eq, areWellNamed_iff entries]
    constructor
    · rintro ⟨hd, he⟩
      exact .directory (fun e h => (he e h).1) hd fun e h => (he e h).2
    · intro h
      exact ⟨h.distinct, fun e he => ⟨h.names e he, h.nodes e he⟩⟩

theorem areWellNamed_iff : ∀ entries : List (String × Node),
    areWellNamed entries = true ↔ ∀ e ∈ entries, Path.IsName e.1 ∧ e.2.WellNamed
  | [] => by simp [areWellNamed]
  | (name, node) :: rest => by
    rw [areWellNamed, Bool.and_eq_true, Bool.and_eq_true, decide_eq_true_eq, isWellNamed_iff node,
      areWellNamed_iff rest, List.forall_mem_cons]

end

instance : DecidablePred WellNamed := fun node => decidable_of_iff _ (isWellNamed_iff node)

@[simp] theorem find?_nil (node : Node) : node.find? [] = some node := rfl

@[simp] theorem find?_cons (node : Node) (name : String) (names : List String) :
    node.find? (name :: names) = ( node.entry? name).bind (·.find? names) := rfl

theorem find?_append (node : Node) (names others : List String) :
    node.find? (names ++ others) = (node.find? names).bind (·.find? others) := by
  simp only [Node.find?, List.foldlM_append]
  rfl

theorem isDirectory_of_entry {node child : Node} {name : String} (h : node.entry? name = some child) :
    node.isDirectory = true := by
  cases node with
  | file => cases h
  | link => cases h
  | directory => rfl

theorem WellNamed.entry {node child : Node} {name : String} (h : node.WellNamed)
    (hc : node.entry? name = some child) : Path.IsName name ∧ child.WellNamed := by
  cases h with
  | file => cases hc
  | link => cases hc
  | directory names distinct nodes =>
    have hm := (Entries.lookup_eq_some_iff distinct name child).mp hc
    exact ⟨names _ hm, nodes _ hm⟩

theorem WellNamed.find {node child : Node} {names : List String} (h : node.WellNamed)
    (hc : node.find? names = some child) : Path.AreNames names ∧ child.WellNamed := by
  induction names generalizing node with
  | nil =>
    cases hc
    exact ⟨List.forall_mem_nil _, h⟩
  | cons name rest ih =>
    obtain ⟨next, hn, hc⟩ := Option.bind_eq_some_iff.mp hc
    obtain ⟨hname, hnext⟩ := h.entry hn
    obtain ⟨hrest, hchild⟩ := ih hnext hc
    exact ⟨List.forall_mem_cons.mpr ⟨hname, hrest⟩, hchild⟩

end Node

/-- The directories of a tree tell their entries apart, as those of a file system do. -/
def FileTree.WellNamed (tree : FileTree) : Prop := tree.top.WellNamed

instance : DecidablePred FileTree.WellNamed := fun tree => inferInstanceAs (Decidable tree.top.WellNamed)

end Gloss
