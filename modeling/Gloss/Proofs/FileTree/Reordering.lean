import Gloss.Proofs.FileTree.Resolution

namespace Gloss

namespace Node

/-- The second node is the first, but for the order of the entries of directories at any depth. -/
inductive Reordered : Node → Node → Prop
  | refl (node : Node) : Reordered node node
  | perm {entries others : List (String × Node)} : entries.Perm others →
      Reordered (.directory entries) (.directory others)
  | inside {node other : Node} (front : List (String × Node)) (name : String) (back : List (String × Node)) :
      Reordered node other →
      Reordered (.directory (front ++ (name, node) :: back)) (.directory (front ++ (name, other) :: back))
  | trans {node middle other : Node} : Reordered node middle → Reordered middle other → Reordered node other

namespace Reordered

variable {node other : Node}

theorem symm (h : node.Reordered other) : other.Reordered node := by
  induction h with
  | refl node => exact .refl node
  | perm hp => exact .perm hp.symm
  | inside front name back _ ih => exact .inside front name back ih
  | trans _ _ ih ih' => exact ih'.trans ih

theorem isDirectory_eq (h : node.Reordered other) : node.isDirectory = other.isDirectory := by
  induction h with
  | refl | perm | inside => rfl
  | trans _ _ ih ih' => exact ih.trans ih'

theorem link_iff (h : node.Reordered other) (target : Path) : node = .link target ↔ other = .link target := by
  induction h with
  | refl => exact Iff.rfl
  | perm | inside => simp
  | trans _ _ ih ih' => exact ih.trans ih'

theorem wellNamed (h : node.Reordered other) (hn : node.WellNamed) : other.WellNamed := by
  induction h with
  | refl => exact hn
  | perm hp =>
    refine .directory ?_ ((hp.map _).nodup_iff.mp hn.distinct) ?_
    · intro e he
      exact hn.names e (hp.mem_iff.mpr he)
    · intro e he
      exact hn.nodes e (hp.mem_iff.mpr he)
  | @inside node other front name back _ ih =>
    have hmem : ∀ {e}, e ∈ front ++ (name, other) :: back →
        e ∈ front ++ (name, node) :: back ∨ e = (name, other) := by
      intro e he
      simp only [List.mem_append, List.mem_cons] at he ⊢
      tauto
    have hin : (name, node) ∈ front ++ (name, node) :: back := by simp
    refine .directory ?_ (by simpa using hn.distinct) ?_
    · intro e he
      rcases hmem he with he | rfl
      · exact hn.names e he
      · exact hn.names (name, node) hin
    · intro e he
      rcases hmem he with he | rfl
      · exact hn.nodes e he
      · exact ih (hn.nodes _ hin)
  | trans _ _ ih ih' => exact ih' (ih hn)

theorem entry (h : node.Reordered other) (hn : node.WellNamed) {name : String} {child : Node}
    (hc : node.entry? name = some child) : ∃ there, other.entry? name = some there ∧ child.Reordered there := by
  induction h generalizing child with
  | refl => exact ⟨child, hc, .refl child⟩
  | perm hp =>
    have hm := (Entries.lookup_eq_some_iff hn.distinct name child).mp hc
    have hd := ((Reordered.perm hp).wellNamed hn).distinct
    exact ⟨child, (Entries.lookup_eq_some_iff hd name child).mpr (hp.mem_iff.mp hm), .refl child⟩
  | @inside node other front first back h _ =>
    have hm := (Entries.lookup_eq_some_iff hn.distinct name child).mp hc
    have hd := ((Reordered.inside front first back h).wellNamed hn).distinct
    rcases List.mem_append.mp hm with hm | hm
    · exact ⟨child, (Entries.lookup_eq_some_iff hd name child).mpr (by simp [hm]), .refl child⟩
    · rcases List.mem_cons.mp hm with he | hm
      · obtain ⟨rfl, rfl⟩ := Prod.mk.inj he
        exact ⟨other, (Entries.lookup_eq_some_iff hd _ other).mpr (by simp), h⟩
      · exact ⟨child, (Entries.lookup_eq_some_iff hd name child).mpr (by simp [hm]), .refl child⟩
  | trans h _ ih ih' =>
    obtain ⟨middle, hmiddle, hsame⟩ := ih hn hc
    obtain ⟨there, hthere, hsame'⟩ := ih' (h.wellNamed hn) hmiddle
    exact ⟨there, hthere, hsame.trans hsame'⟩

theorem find (h : node.Reordered other) (hn : node.WellNamed) {names : List String} {child : Node}
    (hc : node.find? names = some child) : ∃ there, other.find? names = some there ∧ child.Reordered there := by
  induction names generalizing node other with
  | nil =>
    cases hc
    exact ⟨other, rfl, h⟩
  | cons name rest ih =>
    obtain ⟨next, hnext, hc⟩ := Option.bind_eq_some_iff.mp hc
    obtain ⟨there, hthere, hsame⟩ := h.entry hn hnext
    obtain ⟨last, hlast, hsame⟩ := ih hsame (hn.entry hnext).2 hc
    exact ⟨last, by simp [hthere, hlast], hsame⟩

end Reordered

end Node

namespace FileTree

theorem Leads.reordered {top other node : Node} (ht : top.WellNamed) (h : top.Reordered other) {follow : Bool}
    {links : Nat} {place segments found : List String} (hl : Leads top follow links place segments found node) :
    ∃ there, Leads other follow links place segments found there ∧ node.Reordered there := by
  have hentry : ∀ {place s directory child}, top.find? place = some directory → directory.entry? s = some child →
      ∃ same there, other.find? place = some same ∧ same.entry? s = some there ∧ child.Reordered there := by
    intro place s directory child hp he
    obtain ⟨same, hsame, hd⟩ := h.find ht hp
    obtain ⟨there, hthere, hchild⟩ := hd.entry (ht.find hp).2 he
    exact ⟨same, there, hsame, hthere, hchild⟩
  induction hl with
  | stay hp =>
    obtain ⟨there, hthere, hsame⟩ := h.find ht hp
    exact ⟨there, .stay hthere, hsame⟩
  | skip hp hd hv _ ih =>
    obtain ⟨directory, hdirectory, hsame⟩ := h.find ht hp
    obtain ⟨there, hthere, hnode⟩ := ih
    exact ⟨there, .skip hdirectory (hsame.isDirectory_eq ▸ hd) hv hthere, hnode⟩
  | up hp hd _ ih =>
    obtain ⟨directory, hdirectory, hsame⟩ := h.find ht hp
    obtain ⟨there, hthere, hnode⟩ := ih
    exact ⟨there, .up hdirectory (hsame.isDirectory_eq ▸ hd) hthere, hnode⟩
  | keep hp hf hv hs he =>
    obtain ⟨directory, child, hdirectory, hchild, hsame⟩ := hentry hp he
    obtain rfl := (hsame.link_iff _).mp rfl
    exact ⟨_, .keep hdirectory hf hv hs hchild, .refl _⟩
  | jump hp hv hs he hr _ ih =>
    obtain ⟨directory, child, hdirectory, hchild, hsame⟩ := hentry hp he
    obtain rfl := (hsame.link_iff _).mp rfl
    obtain ⟨there, hthere, hnode⟩ := ih
    exact ⟨there, .jump hdirectory hv hs hchild hr hthere, hnode⟩
  | down hp hv hs he hl _ ih =>
    obtain ⟨directory, child, hdirectory, hchild, hsame⟩ := hentry hp he
    obtain ⟨there, hthere, hnode⟩ := ih
    have hlink : ∀ target, child ≠ .link target := fun target he => hl target ((hsame.link_iff target).mpr he)
    exact ⟨there, .down hdirectory hv hs hchild hlink hthere, hnode⟩

structure Reordered (tree other : FileTree) : Prop where
  top : tree.top.Reordered other.top
  here : other.here = tree.here

namespace Reordered

variable {tree other : FileTree}

theorem symm (h : tree.Reordered other) : other.Reordered tree := ⟨h.top.symm, h.here.symm⟩

theorem wellNamed (h : tree.Reordered other) (ht : tree.WellNamed) : other.WellNamed := h.top.wellNamed ht

theorem resolve (h : tree.Reordered other) (ht : tree.WellNamed) {follow : Bool} {path : Path} {found : List String}
    {node : Node} (hr : tree.resolve follow path = .ok (found, node)) :
    ∃ there, other.resolve follow path = .ok (found, there) ∧ node.Reordered there := by
  obtain ⟨hs, hleads⟩ := (resolve_eq_ok_iff tree follow path found node).mp hr
  obtain ⟨there, hthere, hsame⟩ := hleads.reordered ht h.top
  have hstart : other.start path = tree.start path := by rw [start, start, h.here]
  refine ⟨there, (resolve_eq_ok_iff other follow path found there).mpr ⟨hs, ?_⟩, hsame⟩
  rw [hstart]
  exact hthere

theorem node (h : tree.Reordered other) (ht : tree.WellNamed) {path : Path} {node : Node}
    (hn : tree.node path = .ok node) : ∃ there, other.node path = .ok there ∧ node.Reordered there := by
  unfold FileTree.node at hn ⊢
  cases hr : tree.resolve true path with
  | error => simp [hr, Except.map] at hn
  | ok found =>
    obtain rfl : found.2 = node := by simpa [hr, Except.map] using hn
    obtain ⟨there, hthere, hsame⟩ := h.resolve ht hr
    exact ⟨there, by simp [hthere, Except.map], hsame⟩

end Reordered

end FileTree

end Gloss
