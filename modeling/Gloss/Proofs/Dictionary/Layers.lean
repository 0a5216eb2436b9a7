import Gloss.Loading
import Gloss.Proofs.Entries

namespace Gloss

theorem findSome?_reverse_iff {α β : Type} {before : α → α → Prop} [Std.Asymm before] {l : List α}
    (h : l.Pairwise before) (f : α → Option β) (b : β) :
    l.reverse.findSome? f = some b ↔
      ∃ a ∈ l, f a = some b ∧ ∀ c ∈ l, c ≠ a → (f c).isSome = true → before c a := by
  rw [List.findSome?_eq_some_iff]
  constructor
  · rintro ⟨after, a, front, hl, ha, hnone⟩
    obtain rfl : l = front.reverse ++ a :: after.reverse := by simpa using congrArg List.reverse hl
    refine ⟨a, by simp, ha, fun c hc hne hsome => ?_⟩
    rw [List.mem_append, List.mem_cons] at hc
    rcases hc with hc | hc | hc
    · exact (List.pairwise_append.mp h).2.2 c hc a (by simp)
    · exact absurd hc hne
    · simp [hnone c (List.mem_reverse.mp hc)] at hsome
  · rintro ⟨a, hm, ha, hlast⟩
    obtain ⟨front, after, rfl⟩ := List.append_of_mem hm
    refine ⟨after.reverse, a, front.reverse, by simp, ha, fun c hc => ?_⟩
    rw [List.mem_reverse] at hc
    have hac : before a c := (List.pairwise_cons.mp (List.pairwise_append.mp h).2.1).1 c hc
    -- a later element that has a value would also have to come before `a`
    refine Decidable.byContradiction fun hsome => ?_
    have hca : before c a := by
      refine hlast c (by simp [hc]) ?_ (Option.isSome_iff_ne_none.mpr hsome)
      rintro rfl
      exact Std.Asymm.asymm c c hac hac
    exact Std.Asymm.asymm a c hac hca

namespace Dictionary

theorem getElem?_ofPairs (pairs : List (String × String)) (key : String) :
    (ofPairs pairs)[key]? = pairs.reverse.lookup key := by
  have hunder : ∀ under : Dictionary, (pairs.foldl (fun d p => d.insert p.1 p.2) under)[key]? =
      (pairs.reverse.lookup key).or under[key]? := by
    induction pairs with
    | nil => simp
    | cons p pairs ih =>
      obtain ⟨first, value⟩ := p
      intro under
      rw [List.foldl_cons, ih, Std.ExtTreeMap.getElem?_insert, List.reverse_cons, List.lookup_append, Option.or_assoc]
      by_cases h : key = first
      · subst h
        simp
      · simp [List.lookup_cons, beq_eq_false_iff_ne.mpr h, Ne.symm h]
  simpa [ofPairs] using hunder ∅

theorem mem_of_getElem?_ofPairs {pairs : List (String × String)} {key value : String}
    (h : (ofPairs pairs)[key]? = some value) : (key, value) ∈ pairs := by
  rw [getElem?_ofPairs, List.lookup_eq_some_iff] at h
  obtain ⟨later, earlier, hpairs, _⟩ := h
  rw [← List.mem_reverse, hpairs]
  simp

theorem getElem?_ofPairs_of_mem {pairs : List (String × String)} (h : (pairs.map (·.1)).Nodup) {key value : String}
    (hm : (key, value) ∈ pairs) : (ofPairs pairs)[key]? = some value := by
  have hreverse : (pairs.reverse.map (·.1)).Nodup := by
    rw [List.map_reverse]
    exact (List.reverse_perm _).nodup_iff.mpr h
  rw [getElem?_ofPairs]
  exact (Entries.lookup_eq_some_iff hreverse key value).mpr (List.mem_reverse.mpr hm)

theorem size_ofPairs {pairs : List (String × String)} (h : (pairs.map (·.1)).Nodup) :
    (ofPairs pairs).size = pairs.length := by
  have hunder : ∀ under : Dictionary, (∀ p ∈ pairs, p.1 ∉ under) →
      (pairs.foldl (fun d p => d.insert p.1 p.2) under).size = under.size + pairs.length := by
    induction pairs with
    | nil => simp
    | cons p pairs ih =>
      obtain ⟨hp, hpairs⟩ := List.nodup_cons.mp h
      intro under hunder
      obtain ⟨hout, hrest⟩ := List.forall_mem_cons.mp hunder
      rw [List.foldl_cons, ih hpairs, Std.ExtTreeMap.size_insert,
        if_neg (mt Std.ExtTreeMap.mem_iff_contains.mpr hout), List.length_cons]
      · omega
      · intro q hq hmem
        rcases Std.ExtTreeMap.mem_insert.mp hmem with hsame | hmem
        · exact hp (List.mem_map.mpr ⟨q, hq, (Std.LawfulEqCmp.eq_of_compare hsame).symm⟩)
        · exact hrest q hq hmem
  simpa [ofPairs] using hunder ∅ (by simp)

theorem ofPairs_append (pairs more : List (String × String)) :
    ofPairs (pairs ++ more) = (ofPairs pairs).overlay (ofPairs more) := by
  refine Std.ExtTreeMap.ext_getElem? fun key => ?_
  rw [getElem?_overlay, getElem?_ofPairs, getElem?_ofPairs, getElem?_ofPairs, List.reverse_append, List.lookup_append]

theorem getElem?_overlayAll (under : Dictionary) (layers : List Dictionary) (key : String) :
    (under.overlayAll layers)[key]? = (layers.reverse.findSome? (·[key]?)).or under[key]? := by
  induction layers generalizing under with
  | nil => simp
  | cons layer layers ih =>
    rw [overlayAll_cons, ih, getElem?_overlay, List.reverse_cons, List.findSome?_append]
    simp [Option.or_assoc]

theorem keys_ascend (d : Dictionary) : (d.toList.map (·.1)).Pairwise (· < ·) := by
  apply List.pairwise_map.mpr
  apply d.ordered_keys_toList.imp
  intro a b h
  exact compareOfLessAndEq_eq_lt.mp h

theorem getElem?_merge (layers : List Dictionary) (key : String) :
    (merge layers)[key]? = layers.reverse.findSome? (·[key]?) := by
  rw [merge, getElem?_overlayAll]
  simp

end Dictionary

/-- The value that the file at a path gives a key, if it can be read and parsed and has the key. -/
def FileTree.value? (tree : FileTree) (path : Path) (key : String) : Option String :=
  (loadFile tree path).toOption.bind (·[key]?)

namespace Loading

theorem layers_ofFiles (tree : FileTree) (paths : List Path) :
    (ofFiles tree paths).layers = paths.filterMap fun path => (loadFile tree path).toOption := by
  induction paths with
  | nil => rfl
  | cons path paths ih =>
    rw [ofFiles]
    cases hl : loadFile tree path with
    | ok entries => simpa [layers, hl, Except.toOption] using ih
    | error e => simpa [layers, hl, Except.toOption] using ih

theorem length_ofFiles (tree : FileTree) (paths : List Path) :
    (ofFiles tree paths).files.length + (ofFiles tree paths).warnings.length = paths.length := by
  induction paths with
  | nil => rfl
  | cons path paths ih =>
    rw [ofFiles]
    cases hl : loadFile tree path with
    | ok entries =>
      simp only [List.length_cons]
      omega
    | error e =>
      simp only [List.length_cons]
      omega

theorem getElem?_merge_ofFiles (tree : FileTree) (paths : List Path) (key : String) :
    (Dictionary.merge (ofFiles tree paths).layers)[key]? = paths.reverse.findSome? (tree.value? · key) := by
  rw [Dictionary.getElem?_merge, layers_ofFiles, ← List.filterMap_reverse, ← List.head?_filterMap,
    List.filterMap_filterMap, List.head?_filterMap]
  rfl

end Loading

end Gloss
