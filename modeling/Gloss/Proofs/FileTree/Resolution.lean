import Gloss.FileTree.Change
import Gloss.Proofs.FileTree.WellNamed

namespace Gloss

namespace FileTree

/-- From the directory `place` and with at most `links` links to follow, segments lead to `node`,
which stands at `found`. -/
inductive Leads (top : Node) (follow : Bool) : Nat → List String → List String → List String → Node → Prop
  | stay {links place node} : top.find? place = some node → Leads top follow links place [] place node
  | skip {links place s rest directory found node} : top.find? place = some directory → directory.isDirectory →
      Path.isVoid s → Leads top follow links place rest found node → Leads top follow links place (s :: rest) found node
  | up {links place rest directory found node} : top.find? place = some directory → directory.isDirectory →
      Leads top follow links place.dropLast rest found node → Leads top follow links place (".." :: rest) found node
  | keep {links place s directory target} : top.find? place = some directory → follow = false →
      Path.isVoid s = false → s ≠ ".." → directory.entry? s = some (.link target) →
      Leads top follow links place [s] (place ++ [s]) (.link target)
  | jump {links place s rest directory target found node} : top.find? place = some directory →
      Path.isVoid s = false → s ≠ ".." → directory.entry? s = some (.link target) → (rest.isEmpty && !follow) = false →
      Leads top follow links (if target.rooted then [] else place) (target.segments ++ rest) found node →
      Leads top follow (links + 1) place (s :: rest) found node
  | down {links place s rest directory child found node} : top.find? place = some directory →
      Path.isVoid s = false → s ≠ ".." → directory.entry? s = some child → (∀ target, child ≠ .link target) →
      Leads top follow links (place ++ [s]) rest found node → Leads top follow links place (s :: rest) found node

theorem leads_of_walk {top node : Node} {follow : Bool} {links : Nat} {place segments found : List String}
    (h : walk top follow links place segments = .ok (found, node)) :
    Leads top follow links place segments found node := by
  fun_induction walk top follow links place segments with
  | case1 links place there hplace =>
    cases h
    exact .stay hplace
  | case2 => cases h
  | case3 => cases h
  | case4 => cases h
  | case5 links place s rest there hplace hd hv ih => exact .skip hplace (by simpa using hd) hv (ih h)
  | case6 links place rest there hplace hd hv ih => exact .up hplace (by simpa using hd) (ih h)
  | case7 => cases h
  | case8 links place s rest there hplace hd hv hs target he hr =>
    cases h
    obtain ⟨hrest, hfollow⟩ := Bool.and_eq_true_iff.mp hr
    obtain rfl : rest = [] := List.isEmpty_iff.mp hrest
    exact .keep hplace (by simpa using hfollow) (by simpa using hv) hs he
  | case9 => cases h
  | case10 place s rest there hplace hd hv hs target he hr links ih =>
    exact .jump hplace (by simpa using hv) hs he (by simpa using hr) (ih h)
  | case11 links place s rest there hplace hd hv hs child hl he ih =>
    exact .down hplace (by simpa using hv) hs he (fun target ht => hl target ht) (ih h)

theorem Leads.walk {top node : Node} {follow : Bool} {links : Nat} {place segments found : List String}
    (h : Leads top follow links place segments found node) :
    walk top follow links place segments = .ok (found, node) := by
  induction h with
  | stay hp => simp [FileTree.walk, hp]
  | skip hp hd hv _ ih => simp [FileTree.walk, hp, hd, hv, ih]
  | up hp hd _ ih => simp [FileTree.walk, hp, hd, Path.isVoid, ih]
  | keep hp hf hv hs he => simp [FileTree.walk, hp, Node.isDirectory_of_entry he, hv, hs, he, hf]
  | jump hp hv hs he hr _ ih => simp [FileTree.walk, hp, Node.isDirectory_of_entry he, hv, hs, he, hr, ih]
  | @down links place s rest directory child found node hp hv hs he hl _ ih =>
    cases child with
    | link target => exact absurd rfl (hl target)
    | file bytes => simp [FileTree.walk, hp, Node.isDirectory_of_entry he, hv, hs, he, ih]
    | directory entries => simp [FileTree.walk, hp, Node.isDirectory_of_entry he, hv, hs, he, ih]

theorem Leads.find {top node : Node} {follow : Bool} {links : Nat} {place segments found : List String}
    (h : Leads top follow links place segments found node) : top.find? found = some node := by
  induction h with
  | stay hp => exact hp
  | keep hp _ _ _ he => simp [Node.find?_append, hp, he]
  | skip _ _ _ _ ih | up _ _ _ ih | jump _ _ _ _ _ _ ih | down _ _ _ _ _ _ ih => exact ih

theorem Leads.follow {top node : Node} {links : Nat} {place segments found : List String}
    (h : Leads top false links place segments found node) (hn : ∀ target, node ≠ .link target) :
    Leads top true links place segments found node := by
  induction h with
  | stay hp => exact .stay hp
  | skip hp hd hv _ ih => exact .skip hp hd hv (ih hn)
  | up hp hd _ ih => exact .up hp hd (ih hn)
  | keep => exact absurd rfl (hn _)
  | jump hp hv hs he _ _ ih => exact .jump hp hv hs he (by simp) (ih hn)
  | down hp hv hs he hl _ ih => exact .down hp hv hs he hl (ih hn)

theorem Leads.unfollow {top node : Node} {links : Nat} {place segments found : List String}
    (h : Leads top true links place segments found node) :
    Leads top false links place segments found node ∨
      ∃ spot target, Leads top false links place segments spot (.link target) := by
  induction h with
  | stay hp => exact Or.inl (.stay hp)
  | skip hp hd hv _ ih =>
    rcases ih with h | ⟨spot, target, h⟩
    · exact Or.inl (.skip hp hd hv h)
    · exact Or.inr ⟨spot, target, .skip hp hd hv h⟩
  | up hp hd _ ih =>
    rcases ih with h | ⟨spot, target, h⟩
    · exact Or.inl (.up hp hd h)
    · exact Or.inr ⟨spot, target, .up hp hd h⟩
  | keep _ hf => cases hf
  | @jump links place s rest _ _ _ _ hp hv hs he _ _ ih =>
    cases rest with
    | nil => exact Or.inr ⟨place ++ [s], _, .keep hp rfl hv hs he⟩
    | cons =>
      rcases ih with h | ⟨spot, target, h⟩
      · exact Or.inl (.jump hp hv hs he rfl h)
      · exact Or.inr ⟨spot, target, .jump hp hv hs he rfl h⟩
  | down hp hv hs he hl _ ih =>
    rcases ih with h | ⟨spot, target, h⟩
    · exact Or.inl (.down hp hv hs he hl h)
    · exact Or.inr ⟨spot, target, .down hp hv hs he hl h⟩

theorem Leads.append {top middle : Node} {links : Nat} {place segments found : List String}
    (h : Leads top true links place segments found middle) :
    ∃ left, ∀ {others last node}, Leads top true left found others last node →
      Leads top true links place (segments ++ others) last node := by
  induction h with
  | @stay links => exact ⟨links, id⟩
  | skip hp hd hv _ ih =>
    obtain ⟨left, hleft⟩ := ih
    exact ⟨left, fun h => .skip hp hd hv (hleft h)⟩
  | up hp hd _ ih =>
    obtain ⟨left, hleft⟩ := ih
    exact ⟨left, fun h => .up hp hd (hleft h)⟩
  | keep _ hf => cases hf
  | jump hp hv hs he _ _ ih =>
    obtain ⟨left, hleft⟩ := ih
    exact ⟨left, fun h => .jump hp hv hs he (by simp) (by simpa using hleft h)⟩
  | down hp hv hs he hl _ ih =>
    obtain ⟨left, hleft⟩ := ih
    exact ⟨left, fun h => .down hp hv hs he hl (hleft h)⟩

theorem Leads.stem {top node : Node} {links : Nat} {place segments found : List String}
    (h : Leads top true links place segments found node) :
    Leads top true links place (Path.stem segments) found node := by
  unfold Path.stem
  split
  · next hlast =>
    obtain ⟨front, rfl⟩ := List.getLast?_eq_some_iff.mp hlast
    rw [List.dropLast_concat]
    clear hlast
    -- along the walk only `skip` can meet the last segment
    generalize hs : front ++ [""] = segments at h
    induction h generalizing front with
    | stay => simp at hs
    | keep _ hf => cases hf
    | skip hp hd hv h ih =>
      cases front with
      | nil =>
        obtain ⟨rfl, rfl⟩ := List.cons.inj hs
        exact h
      | cons =>
        obtain ⟨rfl, hrest⟩ := List.cons.inj hs
        exact .skip hp hd hv (ih _ hrest)
    | up hp hd _ ih =>
      cases front with
      | nil => simp at hs
      | cons =>
        obtain ⟨rfl, hrest⟩ := List.cons.inj hs
        exact .up hp hd (ih _ hrest)
    | jump hp hv hs' he _ _ ih =>
      cases front with
      | nil =>
        obtain ⟨rfl, rfl⟩ := List.cons.inj hs
        cases hv
      | cons =>
        obtain ⟨rfl, rfl⟩ := List.cons.inj hs
        exact .jump hp hv hs' he (by simp) (ih _ (by simp))
    | down hp hv hs' he hl _ ih =>
      cases front with
      | nil =>
        obtain ⟨rfl, rfl⟩ := List.cons.inj hs
        cases hv
      | cons =>
        obtain ⟨rfl, hrest⟩ := List.cons.inj hs
        exact .down hp hv hs' he hl (ih _ hrest)
  · exact h

theorem leads_names {top node leaf : Node} {names : List String} (links : Nat) {place : List String}
    (hp : top.find? place = some node) (h : Path.AreNames names) (hf : node.find? names = some leaf)
    (hl : ∀ target, leaf ≠ .link target) : Leads top true links place names (place ++ names) leaf := by
  induction names generalizing node place with
  | nil =>
    cases hf
    rw [List.append_nil]
    exact .stay hp
  | cons name rest ih =>
    obtain ⟨hname, hrest⟩ := List.forall_mem_cons.mp h
    obtain ⟨child, he, hf⟩ := Option.bind_eq_some_iff.mp hf
    have hchild : ∀ target, child ≠ .link target := by
      rintro target rfl
      cases rest with
      | nil => exact hl target (by cases hf; rfl)
      | cons => cases hf
    have hnext : top.find? (place ++ [name]) = some child := by simp [Node.find?_append, hp, he]
    have := ih hnext hrest hf
    rw [List.append_assoc] at this
    exact .down hp hname.1 hname.2.1 he hchild this

theorem resolve_eq_ok_iff (tree : FileTree) (follow : Bool) (path : Path) (found : List String) (node : Node) :
    tree.resolve follow path = .ok (found, node) ↔
      (path.rooted = true ∨ path.segments ≠ []) ∧
        Leads tree.top follow linkLimit (tree.start path) path.segments found node := by
  unfold resolve start
  cases path.rooted with
  | true => exact ⟨fun h => ⟨Or.inl rfl, leads_of_walk h⟩, fun h => h.2.walk⟩
  | false =>
    cases path.segments with
    | nil => simp
    | cons => exact ⟨fun h => ⟨Or.inr (by simp), leads_of_walk h⟩, fun h => h.2.walk⟩

theorem find_of_resolve {tree : FileTree} {follow : Bool} {path : Path} {found : List String} {node : Node}
    (h : tree.resolve follow path = .ok (found, node)) : tree.top.find? found = some node :=
  ((resolve_eq_ok_iff tree follow path found node).mp h).2.find

theorem resolve_join {tree : FileTree} {root : Path} {base names : List String} {node leaf : Node}
    (h : tree.resolve true root = .ok (base, node)) (hn : names ≠ []) (hnames : Path.AreNames names)
    (hf : node.find? names = some leaf) (hl : ∀ target, leaf ≠ .link target) :
    tree.resolve true (root.join (.ofNames names)) = .ok (base ++ names, leaf) := by
  obtain ⟨_, hroot⟩ := (resolve_eq_ok_iff tree true root base node).mp h
  obtain ⟨left, hleft⟩ := hroot.stem.append
  rw [Path.join_names root hn, resolve_eq_ok_iff]
  constructor
  · exact Or.inr (by simp [hn])
  · exact hleft (leads_names left hroot.find hnames hf hl)

end FileTree

end Gloss
