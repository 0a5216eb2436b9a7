import Gloss.Config.Search
import Gloss.Proofs.Path.Ancestors

namespace Gloss.Config

variable {tree : FileTree} {start : Path}

def markerIn (directory : Path) : Path := directory.join (.ofText markerName)

/-- After `i` steps up from `start` comes `d`, the first directory with a configuration file, and none before it
has the marker. -/
structure IsNearest (tree : FileTree) (start : Path) (i : Nat) (d : Path) : Prop where
  reached : start.popped i = some d
  present : tree.isPresent (fileIn d) = true
  absent : ∀ j < i, ∀ e, start.popped j = some e → tree.isPresent (fileIn e) = false
  unmarked : ∀ j < i, ∀ e, start.popped j = some e → tree.isPresent (markerIn e) = false

theorem isNearest_zero (d : Path) : IsNearest tree start 0 d ↔ d = start ∧ tree.isPresent (fileIn start) = true := by
  constructor
  · intro h
    obtain rfl := Option.some.inj h.reached
    exact ⟨rfl, h.present⟩
  · rintro ⟨rfl, hpresent⟩
    exact ⟨rfl, hpresent, by simp, by simp⟩

theorem isNearest_succ (i : Nat) (d : Path) : IsNearest tree start (i + 1) d ↔
    tree.isPresent (fileIn start) = false ∧ tree.isPresent (markerIn start) = false ∧
      ∃ above, start.parent? = some above ∧ IsNearest tree above i d := by
  constructor
  · intro h
    refine ⟨h.absent 0 (by omega) start rfl, h.unmarked 0 (by omega) start rfl, ?_⟩
    have hreached := h.reached
    rw [Path.popped_succ] at hreached
    obtain ⟨above, habove, hd⟩ := Option.bind_eq_some_iff.mp hreached
    have hstep (j : Nat) : start.popped (j + 1) = above.popped j := by rw [Path.popped_succ, habove, Option.bind_some]
    refine ⟨above, habove, hd, h.present, fun j hj e he => ?_, fun j hj e he => ?_⟩
    · exact h.absent (j + 1) (by omega) e ((hstep j).trans he)
    · exact h.unmarked (j + 1) (by omega) e ((hstep j).trans he)
  · rintro ⟨hfile, hmarker, above, habove, h⟩
    have hstep (j : Nat) : start.popped (j + 1) = above.popped j := by rw [Path.popped_succ, habove, Option.bind_some]
    refine ⟨(hstep i).trans h.reached, h.present, fun j hj e he => ?_, fun j hj e he => ?_⟩
    · cases j with
      | zero => exact Option.some.inj he ▸ hfile
      | succ j => exact h.absent j (by omega) e ((hstep j).symm.trans he)
    · cases j with
      | zero => exact Option.some.inj he ▸ hmarker
      | succ j => exact h.unmarked j (by omega) e ((hstep j).symm.trans he)

theorem find?_step (tree : FileTree) (start : Path) : find? tree start =
    if tree.isPresent (fileIn start) then some (fileIn start)
    else if tree.isPresent (markerIn start) then none else start.parent?.bind (find? tree) := by
  rw [find?, Path.ancestors_eq, firstFile?]
  refine if_congr Iff.rfl rfl (if_congr Iff.rfl rfl ?_)
  cases start.parent? <;> rfl

theorem find?_eq_some_iff (tree : FileTree) (start path : Path) :
    find? tree start = some path ↔ ∃ i d, IsNearest tree start i d ∧ path = fileIn d := by
  -- the search and the claim go up together, a directory at a time
  induction start using Path.ancestors.induct with
  | case1 start hnone =>
    rw [find?_step, ← Nat.or_exists_add_one]
    simp only [isNearest_zero, isNearest_succ, hnone]
    cases tree.isPresent (fileIn start) with
    | true => simpa using eq_comm
    | false => simp
  | case2 start above habove ih =>
    rw [find?_step, ← Nat.or_exists_add_one]
    simp only [isNearest_zero, isNearest_succ, habove, Option.bind_some, Option.some.injEq, exists_eq_left']
    cases tree.isPresent (fileIn start) with
    | true => simpa using eq_comm
    | false =>
      cases tree.isPresent (markerIn start) with
      | true => simp
      | false => simpa using ih

/-- The configuration file of the nearest directory that has one counts, unless a directory before that one has
the marker, and none counts if there is no such directory. The way up drops one component of the spelled path
after the other until none but the top is left, and so it ends. -/
theorem nearest_file_counts (tree : FileTree) (start : Path) :
    (∀ path, find? tree start = some path ↔ ∃ i d, IsNearest tree start i d ∧ path = fileIn d) ∧
      (find? tree start = none ↔ ∀ i d, ¬ IsNearest tree start i d) ∧
      (∀ i d, start.popped i = some d →
        (∃ dropped, start.components = d.components ++ dropped ∧ dropped.length = i) ∧
          d.rooted = start.rooted ∧ d.segments <+: start.segments ∧
          (start.popped (i + 1) = none ↔ d.components = d.top)) ∧
      ∀ i > start.components.length, start.popped i = none := by
  refine ⟨find?_eq_some_iff tree start, ?_, fun i d hd => ?_, fun i => Path.popped_eq_none⟩
  · rw [Option.eq_none_iff_forall_ne_some]
    simp only [ne_eq, find?_eq_some_iff]
    constructor
    · intro h i d hd
      exact h _ ⟨i, d, hd, rfl⟩
    · rintro h _ ⟨i, d, hd, rfl⟩
      exact h i d hd
  · obtain ⟨hdropped, hrooted, hinitial⟩ := Path.components_of_popped hd
    refine ⟨hdropped, hrooted, hinitial, ?_⟩
    rw [Path.popped, hd, Option.bind_some]
    exact d.parent?_eq_none_iff

end Gloss.Config
