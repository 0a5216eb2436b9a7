import Gloss.FileTree.Change
import Gloss.Proofs.FileTree.Resolution

namespace Gloss

namespace Path

theorem mem_split {cs s : List Char} (h : s ∈ split cs) : '/' ∉ s := by
  induction cs generalizing s with
  | nil => simp_all [split]
  | cons c cs ih =>
    unfold split at h
    split at h
    · rcases List.mem_cons.mp h with rfl | h
      · simp
      · exact ih h
    · next hc =>
      split at h
      · obtain rfl : s = [c] := by simpa using h
        simp [Ne.symm hc]
      · next first rest hs =>
        rw [hs] at ih
        rcases List.mem_cons.mp h with rfl | h
        · simp [Ne.symm hc, ih List.mem_cons_self]
        · exact ih (List.mem_cons_of_mem first h)

theorem separator_not_mem {text s : String} (h : s ∈ (ofText text).segments) : '/' ∉ s.toList := by
  have hsplit : ∀ cs : List Char, s ∈ segmentsOf cs → '/' ∉ s.toList := by
    intro cs hm
    unfold segmentsOf at hm
    split at hm
    · cases hm
    · obtain ⟨t, ht, rfl⟩ := List.mem_map.mp hm
      simpa using mem_split ht
  unfold ofText ofChars at h
  split at h
  · cases h
  · next c cs _ =>
    split at h
    · exact hsplit cs h
    · exact hsplit (c :: cs) h

end Path

namespace Node

theorem mem_setEntry {name : String} {node : Node} {entries : List (String × Node)} {e : String × Node}
    (h : e ∈ setEntry name node entries) : e = (name, node) ∨ e ∈ entries :=
  Entries.mem_put (setEntry name node) rfl (fun _ _ => rfl) h

theorem WellNamed.setEntry {entries : List (String × Node)} (h : WellNamed (.directory entries)) {name : String}
    (hname : Path.IsName name) {node : Node} (hnode : node.WellNamed) :
    WellNamed (.directory (Node.setEntry name node entries)) := by
  refine .directory ?_ (Entries.nodup_put (Node.setEntry name node) rfl (fun _ _ => rfl) h.distinct) ?_
  · intro e he
    rcases mem_setEntry he with rfl | he
    · exact hname
    · exact h.names e he
  · intro e he
    rcases mem_setEntry he with rfl | he
    · exact hnode
    · exact h.nodes e he

theorem wellNamed_emptyDirectory : emptyDirectory.WellNamed := .directory (by simp) (by simp) (by simp)

theorem WellNamed.lookup {entries : List (String × Node)} (h : WellNamed (.directory entries)) {name : String}
    {child : Node} (hc : entries.lookup name = some child) : child.WellNamed :=
  h.nodes _ ((Entries.lookup_eq_some_iff h.distinct name child).mp hc)

theorem WellNamed.put {leaf : Node} (hl : leaf.WellNamed) {names : List String} (hnames : Path.AreNames names)
    {node : Node} (h : node.WellNamed) : (Node.put leaf names node).WellNamed := by
  induction names generalizing node with
  | nil => exact hl
  | cons name rest ih =>
    obtain ⟨hname, hrest⟩ := List.forall_mem_cons.mp hnames
    have hchild : ∀ entries, WellNamed (.directory entries) →
        ((entries.lookup name).getD emptyDirectory).WellNamed := by
      intro entries he
      cases hc : entries.lookup name with
      | none => exact wellNamed_emptyDirectory
      | some child => exact he.lookup hc
    cases node with
    | file bytes => exact wellNamed_emptyDirectory.setEntry hname (ih hrest (hchild [] wellNamed_emptyDirectory))
    | link target => exact wellNamed_emptyDirectory.setEntry hname (ih hrest (hchild [] wellNamed_emptyDirectory))
    | directory entries => exact h.setEntry hname (ih hrest (hchild entries h))

theorem WellNamed.erase {node : Node} (h : node.WellNamed) (names : List String) :
    (Node.erase names node).WellNamed := by
  fun_induction Node.erase names node with
  | case1 node => exact h
  | case2 name entries =>
    refine .directory ?_ ?_ ?_
    · intro e he
      exact h.names e (List.mem_filter.mp he).1
    · exact h.distinct.sublist (List.filter_sublist.map _)
    · intro e he
      exact h.nodes e (List.mem_filter.mp he).1
  | case3 name names entries hne child hc ih =>
    have hname := h.names _ ((Entries.lookup_eq_some_iff h.distinct name child).mp hc)
    exact h.setEntry hname (ih (h.lookup hc))
  | case4 => exact h
  | case5 => exact h

end Node

namespace FileTree

theorem names_of_walk {tree : FileTree} (ht : tree.WellNamed) {follow : Bool} {links : Nat}
    {place segments found : List String} {node : Node}
    (h : walk tree.top follow links place segments = .ok (found, node)) : Path.AreNames found :=
  (ht.find (leads_of_walk h).find).1

theorem landing_names {tree : FileTree} (ht : tree.WellNamed) {place segments : List String}
    (hplace : Path.AreNames place) (hs : ∀ s ∈ segments, '/' ∉ s.toList) :
    Path.AreNames (tree.landing place segments) := by
  induction segments generalizing place with
  | nil => exact hplace
  | cons s rest ih =>
    obtain ⟨hsep, hrest⟩ := List.forall_mem_cons.mp hs
    unfold landing
    rw [List.foldl_cons]
    refine ih ?_ hrest
    split
    · exact hplace
    · next hv =>
      split
      · intro t hm
        exact hplace t (List.dropLast_subset place hm)
      · next hup =>
        split
        · next found _ hw => exact names_of_walk ht hw
        · intro t hm
          rcases List.mem_append.mp hm with hm | hm
          · exact hplace t hm
          · obtain rfl : t = s := by simpa using hm
            exact ⟨by simpa using hv, hup, hsep⟩

/-- A tree as programs find it: the working directory, too, is given by names. -/
structure Sound (tree : FileTree) : Prop where
  wellNamed : tree.WellNamed
  here : Path.AreNames tree.here

namespace Sound

variable {tree : FileTree} (h : tree.Sound)

include h

theorem start (path : Path) : Path.AreNames (tree.start path) := by
  unfold FileTree.start
  split
  · exact List.forall_mem_nil _
  · exact h.here

theorem landing (path : Path) {segments : List String} (hs : ∀ s ∈ segments, '/' ∉ s.toList) :
    Path.AreNames (tree.landing (tree.start path) segments) :=
  landing_names h.wellNamed (h.start path) hs

theorem put {place : List String} (hplace : Path.AreNames place) {leaf : Node} (hl : leaf.WellNamed) :
    (tree.put place leaf).Sound :=
  ⟨hl.put hplace h.wellNamed, h.here⟩

theorem writeFile (text : String) (bytes : ByteArray) : (tree.writeFile (.ofText text) bytes).Sound :=
  h.put (h.landing _ fun _ hs => Path.separator_not_mem hs) (.file bytes)

theorem makeDirectory (text : String) : (tree.makeDirectory (.ofText text)).Sound := by
  unfold FileTree.makeDirectory
  split
  · exact h
  · exact h.put (h.landing _ fun _ hs => Path.separator_not_mem hs) Node.wellNamed_emptyDirectory

theorem makeLink {text : String} (hname : (Path.trimEnd (Path.ofText text).segments).getLast? ≠ some "..")
    (target : Path) : (tree.makeLink (.ofText text) target).Sound := by
  have hsep : ∀ s ∈ Path.trimEnd (Path.ofText text).segments, '/' ∉ s.toList :=
    fun s hs => Path.separator_not_mem ((Path.prefix_trimEnd _).subset hs)
  refine h.put ?_ (.link target)
  intro s hs
  rcases List.mem_append.mp hs with hs | hs
  · exact h.landing _ (fun t ht => hsep t (List.dropLast_subset _ ht)) s hs
  · have hlast := Option.mem_toList.mp hs
    refine ⟨Path.isVoid_getLast?_trimEnd hlast, ?_, hsep s (List.mem_of_getLast? hlast)⟩
    rintro rfl
    exact hname hlast

theorem remove (path : Path) : (tree.remove path).Sound := ⟨h.wellNamed.erase _, h.here⟩

end Sound

end FileTree

end Gloss
