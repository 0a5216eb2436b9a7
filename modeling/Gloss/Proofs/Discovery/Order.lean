import Gloss.Proofs.Discovery.Listing
import Mathlib.Data.List.Lex
import Mathlib.Data.String.Basic

namespace Gloss

namespace Path

def Component.rank : Component → Nat
  | root => 0
  | current => 1
  | parent => 2
  | name _ => 3

def Component.Before : Component → Component → Prop
  | .name s, .name t => s < t
  | c, d => c.rank < d.rank

instance : Std.Asymm Component.Before where
  asymm c d h h' := by
    cases c with
    | name s =>
      cases d with
      | name t => exact lt_asymm h h'
      | _ => simp [Component.Before, Component.rank] at h
    | _ => cases d <;> simp [Component.Before, Component.rank] at h h'

def Before (p q : Path) : Prop := List.Lex Component.Before p.components q.components

theorem lex_map_name {names others : List String} (h : List.Lex (· < ·) names others) :
    List.Lex Component.Before (names.map .name) (others.map .name) := by
  induction h with
  | nil => exact .nil
  | rel h => exact .rel h
  | cons _ ih => exact .cons ih

end Path

namespace Discovery

def Filter.group? (filter : Filter) (root path : Path) : Option Nat :=
  (path.stripPrefix? root).bind filter.suffixIndex?

/-- Of two files below the root, the first is merged before the second. -/
def Precedes (filter : Filter) (root p q : Path) : Prop :=
  ∃ i j, filter.group? root p = some i ∧ filter.group? root q = some j ∧ (i < j ∨ i = j ∧ p.Before q)

instance (filter : Filter) (root : Path) : Std.Asymm (Precedes filter root) where
  asymm := by
    rintro p q ⟨i, j, hp, hq, h⟩ ⟨j', i', hq', hp', h'⟩
    obtain rfl : i = i' := Option.some.inj (hp.symm.trans hp')
    obtain rfl : j = j' := Option.some.inj (hq.symm.trans hq')
    rcases h with h | ⟨rfl, h⟩
    · omega
    · rcases h' with h' | ⟨_, h'⟩
      · omega
      · exact Std.Asymm.asymm (r := List.Lex Path.Component.Before) _ _ h h'

theorem group?_under (filter : Filter) (root : String) {names : List String} (h : Path.AreNames names) :
    filter.group? (.ofText root) (under (.ofText root) names) = filter.suffixIndex? (.ofNames names) := by
  rw [Filter.group?, (goesOn_under (.ofText root) h).stripPrefix? h]
  rfl

theorem before_under (root : Path) {names others : List String} (h : Path.AreNames names)
    (h' : Path.AreNames others) (hlex : List.Lex (· < ·) names others) :
    (under root names).Before (under root others) := by
  rw [Path.Before, (goesOn_under root h).components h, (goesOn_under root h').components h']
  exact List.Lex.append_left _ (Path.lex_map_name hlex) _

theorem lexicographic_iff (names others : List String) :
    lexicographic names others = true ↔ names = others ∨ List.Lex (· < ·) names others := by
  induction names generalizing others with
  | nil => cases others <;> simp [lexicographic]
  | cons s rest ih =>
    cases others with
    | nil => simp [lexicographic]
    | cons t others =>
      rw [lexicographic, List.cons_lex_cons_iff]
      by_cases hst : s = t
      · subst hst
        simp [ih]
      · simp [hst]

theorem lexicographic_iff_le (names others : List String) : lexicographic names others = true ↔ names ≤ others := by
  rw [lexicographic_iff, le_iff_eq_or_lt]
  rfl

theorem sort_ascends (files : List (List String)) : (sort files).Pairwise fun a b => lexicographic a b = true := by
  apply List.pairwise_mergeSort
  · intro a b c
    simp only [lexicographic_iff_le]
    exact le_trans
  · intro a b
    rw [Bool.or_eq_true, lexicographic_iff_le, lexicographic_iff_le]
    exact le_total a b

theorem sort_pairwise {files : List (List String)} (h : files.Nodup) :
    (sort files).Pairwise (List.Lex (· < ·)) := by
  have hne : (sort files).Nodup := (List.mergeSort_perm files lexicographic).nodup_iff.mpr h
  refine ((sort_ascends files).and hne).imp ?_
  rintro a b ⟨hab, hn⟩
  exact lt_of_le_of_ne ((lexicographic_iff_le a b).mp hab) hn

theorem arrange_pairwise (filter : Filter) {files : List (List String)} (h : files.Nodup) :
    (arrange filter files).Pairwise fun a b => ∃ i j, filter.suffixIndex? (.ofNames a) = some i ∧
      filter.suffixIndex? (.ofNames b) = some j ∧ (i < j ∨ i = j ∧ List.Lex (· < ·) a b) := by
  have hgroup : ∀ {i : Nat} {names : List String},
      names ∈ sort (files.filter fun names => filter.suffixIndex? (.ofNames names) = some i) →
        filter.suffixIndex? (.ofNames names) = some i := by
    intro i names hm
    rw [sort, List.mem_mergeSort, List.mem_filter] at hm
    exact of_decide_eq_true hm.2
  rw [arrange, List.pairwise_flatMap]
  constructor
  · intro i _
    refine (sort_pairwise (h.filter _)).imp_of_mem ?_
    intro a b ha hb hlex
    exact ⟨i, i, hgroup ha, hgroup hb, Or.inr ⟨rfl, hlex⟩⟩
  · refine List.pairwise_lt_range.imp ?_
    intro i j hij a ha b hb
    exact ⟨i, j, hgroup ha, hgroup hb, Or.inl hij⟩

theorem nodup_arrange (filter : Filter) {files : List (List String)} (h : files.Nodup) :
    (arrange filter files).Nodup := by
  refine (arrange_pairwise filter h).imp ?_
  rintro names _ ⟨i, j, hi, hj, hij⟩ rfl
  obtain rfl : i = j := Option.some.inj (hi.symm.trans hj)
  rcases hij with hij | ⟨_, hlex⟩
  · exact lt_irrefl i hij
  · exact lt_irrefl names hlex

theorem names_of_mem_arrange {filter : Filter} {node : Node} (hn : node.WellNamed) {files : List (List String)}
    (hsub : files.Sublist (filesBelow filter [] node)) {names : List String} (h : names ∈ arrange filter files) :
    Path.AreNames names := by
  have hbelow := hsub.subset ((mem_arrange filter files names).mp h).1
  obtain ⟨⟨bytes, hf⟩, _⟩ := (mem_filesBelow filter hn [] names).mp hbelow
  exact (hn.find hf).1

theorem arrange_ascends (filter : Filter) {node : Node} (hn : node.WellNamed) (root : String)
    {files : List (List String)} (hsub : files.Sublist (filesBelow filter [] node)) :
    ((arrange filter files).map (under (.ofText root))).Pairwise (Precedes filter (.ofText root)) := by
  refine List.pairwise_map.mpr ?_
  refine (arrange_pairwise filter ((nodup_filesBelow filter node [] hn).sublist hsub)).imp_of_mem ?_
  rintro a b ha hb ⟨i, j, hi, hj, hij⟩
  refine ⟨i, j, ?_, ?_, hij.imp_right fun ⟨he, hlex⟩ => ⟨he, ?_⟩⟩
  · rw [group?_under filter root (names_of_mem_arrange hn hsub ha), hi]
  · rw [group?_under filter root (names_of_mem_arrange hn hsub hb), hj]
  · exact before_under _ (names_of_mem_arrange hn hsub ha) (names_of_mem_arrange hn hsub hb) hlex

theorem files_ascend {tree : FileTree} (ht : tree.WellNamed) (root : String) (suffixes ignores : List String) :
    (ofTree tree (.ofText root) suffixes ignores).files.Pairwise
      (Precedes (Filter.ofSettings suffixes ignores) (.ofText root)) := by
  unfold ofTree
  dsimp only
  split
  · exact .nil
  · cases hr : rootNode tree (.ofText root) with
    | error => exact .nil
    | ok node => exact arrange_ascends _ (rootNode_wellNamed ht hr) root (List.Sublist.refl _)

end Discovery

end Gloss
