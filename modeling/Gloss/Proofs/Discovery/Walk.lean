import Gloss.Discovery
import Gloss.Proofs.FileTree.WellNamed

namespace Gloss

theorem Node.isDirectory_of_find {node : Node} {names : List String} {bytes : ByteArray}
    (h : node.find? names = some (.file bytes)) : node.isDirectory = decide (names ≠ []) := by
  cases names with
  | nil =>
    cases h
    rfl
  | cons name rest =>
    cases node with
    | file => cases h
    | link => cases h
    | directory => rfl

theorem Node.not_link_of_find {node : Node} {names : List String} {bytes : ByteArray}
    (h : node.find? names = some (.file bytes)) (target : Path) : node ≠ .link target := by
  rintro rfl
  cases names with
  | nil => cases h
  | cons => cases h

namespace Discovery

def Filter.Spares (filter : Filter) (place rest : List String) : Prop :=
  ∀ above ≠ [], above <+: rest → filter.isIgnored (.ofNames (place ++ above)) (above ≠ rest) = false

theorem Filter.spares_nil (filter : Filter) (place : List String) : filter.Spares place [] := by
  intro above hne hp
  exact absurd (List.prefix_nil.mp hp) hne

theorem Filter.spares_cons (filter : Filter) (place : List String) (name : String) (rest : List String) :
    filter.Spares place (name :: rest) ↔
      filter.isIgnored (.ofNames (place ++ [name])) (rest ≠ []) = false ∧ filter.Spares (place ++ [name]) rest := by
  have hflag : decide ([name] ≠ name :: rest) = decide (rest ≠ []) := by cases rest <;> simp
  constructor
  · intro h
    constructor
    · rw [← hflag]
      exact h [name] (by simp) (by simp)
    · intro above hne hp
      have := h (name :: above) (by simp) (by simpa using hp)
      simpa using this
  · rintro ⟨hname, hrest⟩ above hne hp
    cases above with
    | nil => exact absurd rfl hne
    | cons first above =>
      obtain ⟨rfl, hbelow⟩ := List.cons_prefix_cons.mp hp
      cases above with
      | nil => rwa [hflag]
      | cons => simpa using hrest _ (List.cons_ne_nil _ _) hbelow

theorem mem_filesOf (filter : Filter) (place names : List String) (entries : List (String × Node)) :
    names ∈ filesOf filter place entries ↔
      ∃ e ∈ entries, filter.isIgnored (.ofNames (place ++ [e.1])) e.2.isDirectory = false ∧
        names ∈ filesBelow filter (place ++ [e.1]) e.2 := by
  induction entries with
  | nil => simp [filesOf]
  | cons e rest ih =>
    obtain ⟨name, node⟩ := e
    rw [filesOf, List.mem_append, ih]
    cases hi : filter.isIgnored (.ofNames (place ++ [name])) node.isDirectory <;> simp [hi]

mutual

theorem prefix_of_mem_filesBelow (filter : Filter) (names : List String) : ∀ (node : Node) (place : List String),
    names ∈ filesBelow filter place node → place <+: names
  | .file _, place, h => by
    rw [filesBelow, List.mem_singleton] at h
    exact h ▸ List.prefix_rfl
  | .link _, _, h => by
    rw [filesBelow] at h
    cases h
  | .directory entries, place, h => by
    rw [filesBelow] at h
    obtain ⟨e, _, hp⟩ := prefix_of_mem_filesOf filter names entries place h
    exact (List.prefix_append place [e.1]).trans hp

theorem prefix_of_mem_filesOf (filter : Filter) (names : List String) :
    ∀ (entries : List (String × Node)) (place : List String), names ∈ filesOf filter place entries →
      ∃ e ∈ entries, place ++ [e.1] <+: names
  | [], _, h => by
    rw [filesOf] at h
    cases h
  | (name, node) :: rest, place, h => by
    rw [filesOf, List.mem_append] at h
    rcases h with h | h
    · split at h
      · cases h
      · exact ⟨(name, node), by simp, prefix_of_mem_filesBelow filter names node (place ++ [name]) h⟩
    · obtain ⟨e, he, hp⟩ := prefix_of_mem_filesOf filter names rest place h
      exact ⟨e, by simp [he], hp⟩

end

theorem mem_filesBelow (filter : Filter) {node : Node} (hn : node.WellNamed) (place rest : List String) :
    place ++ rest ∈ filesBelow filter place node ↔
      (∃ bytes, node.find? rest = some (.file bytes)) ∧ filter.Spares place rest := by
  induction rest generalizing node place with
  | nil =>
    cases node with
    | file bytes => simp [filesBelow, filter.spares_nil]
    | link target => simp [filesBelow]
    | directory entries =>
      have hout : place ∉ filesOf filter place entries := by
        intro h
        obtain ⟨e, _, hp⟩ := prefix_of_mem_filesOf filter place entries place h
        have := hp.length_le
        rw [List.length_append, List.length_singleton] at this
        omega
      simp [filesBelow, hout]
  | cons name rest ih =>
    cases node with
    | file bytes => simp [filesBelow, Node.entry?]
    | link target => simp [filesBelow, Node.entry?]
    | directory entries =>
      rw [filesBelow, mem_filesOf, filter.spares_cons, Node.find?_cons]
      have hassoc : place ++ name :: rest = (place ++ [name]) ++ rest := by simp
      constructor
      · rintro ⟨⟨first, child⟩, he, hi, hm⟩
        -- a file below `first` has a path that goes on by `first`
        obtain rfl : first = name := by
          have hp := prefix_of_mem_filesBelow filter _ child _ hm
          rw [List.prefix_append_right_inj, List.cons_prefix_cons] at hp
          exact hp.1
        rw [hassoc, ih (hn.nodes _ he)] at hm
        obtain ⟨⟨bytes, hf⟩, hs⟩ := hm
        have hentry : Node.entry? first (.directory entries) = some child :=
          (Entries.lookup_eq_some_iff hn.distinct first child).mpr he
        rw [Node.isDirectory_of_find hf] at hi
        exact ⟨⟨bytes, by rw [hentry]; exact hf⟩, hi, hs⟩
      · rintro ⟨⟨bytes, hf⟩, hi, hs⟩
        obtain ⟨child, hentry, hf⟩ := Option.bind_eq_some_iff.mp hf
        have he := (Entries.lookup_eq_some_iff hn.distinct name child).mp hentry
        refine ⟨(name, child), he, ?_, ?_⟩
        · rw [Node.isDirectory_of_find hf]
          exact hi
        · rw [hassoc, ih (hn.nodes _ he)]
          exact ⟨⟨bytes, hf⟩, hs⟩

mutual

theorem nodup_filesBelow (filter : Filter) : ∀ (node : Node) (place : List String), node.WellNamed →
    (filesBelow filter place node).Nodup
  | .file _, place, _ => by simp [filesBelow]
  | .link _, _, _ => by simp [filesBelow]
  | .directory entries, place, h => by
    rw [filesBelow]
    exact nodup_filesOf filter entries place h.distinct h.nodes

theorem nodup_filesOf (filter : Filter) : ∀ (entries : List (String × Node)) (place : List String),
    (entries.map (·.1)).Nodup → (∀ e ∈ entries, e.2.WellNamed) → (filesOf filter place entries).Nodup
  | [], _, _, _ => by simp [filesOf]
  | (name, node) :: rest, place, hd, hn => by
    obtain ⟨hname, hd⟩ := List.nodup_cons.mp hd
    obtain ⟨hnode, hn⟩ := List.forall_mem_cons.mp hn
    rw [filesOf, List.nodup_append]
    refine ⟨?_, nodup_filesOf filter rest place hd hn, ?_⟩
    · split
      · exact List.nodup_nil
      · exact nodup_filesBelow filter node (place ++ [name]) hnode
    · intro names h others ho heq
      subst heq
      split at h
      · cases h
      · have hp := prefix_of_mem_filesBelow filter names node _ h
        obtain ⟨e, he, hpe⟩ := prefix_of_mem_filesOf filter names rest place ho
        have : place ++ [name] = place ++ [e.1] :=
          (List.prefix_of_prefix_length_le hp hpe (by simp)).eq_of_length (by simp)
        have hsame : name = e.1 := by simpa using this
        exact hname (List.mem_map.mpr ⟨e, he, hsame.symm⟩)

end

end Discovery

end Gloss
