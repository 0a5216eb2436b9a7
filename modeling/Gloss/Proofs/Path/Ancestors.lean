import Gloss.Proofs.Path.Names

namespace Gloss.Path

def popped (start : Path) : Nat → Option Path
  | 0 => some start
  | n + 1 => (start.popped n).bind parent?

def top (p : Path) : List Component := if p.rooted then [.root] else []

theorem filterMap_trimEnd (segments : List String) :
    (trimEnd segments).filterMap Component.ofSegment? = segments.filterMap Component.ofSegment? := by
  induction segments using List.reverseRecOn with
  | nil => rfl
  | append_singleton rest s ih =>
    by_cases hs : isVoid s = true
    · have hdrop : trimEnd (rest ++ [s]) = trimEnd rest := by simp [trimEnd, hs]
      simp [hdrop, ih, Component.ofSegment?, hs]
    · simp [trimEnd, hs]

theorem trimEnd_cases (segments : List String) :
    trimEnd segments = [] ∧ segments.filterMap Component.ofSegment? = [] ∨
      ∃ front s c, trimEnd segments = front ++ [s] ∧ front <+: segments ∧
        segments.filterMap Component.ofSegment? = (trimEnd front).filterMap Component.ofSegment? ++ [c] := by
  rw [← filterMap_trimEnd segments]
  rcases List.eq_nil_or_concat (trimEnd segments) with hnil | ⟨front, s, hfront⟩
  · exact .inl ⟨hnil, by rw [hnil]; rfl⟩
  · right
    rw [List.concat_eq_append] at hfront
    have hs : isVoid s = false := isVoid_getLast?_trimEnd (by rw [hfront, List.getLast?_concat])
    obtain ⟨c, hc⟩ : ∃ c, Component.ofSegment? s = some c := ⟨_, by rw [Component.ofSegment?, hs]; rfl⟩
    have hinitial := prefix_trimEnd segments
    rw [hfront] at hinitial
    refine ⟨front, s, c, hfront, (List.prefix_append front [s]).trans hinitial, ?_⟩
    rw [hfront, List.filterMap_append, filterMap_trimEnd front]
    simp [hc]

theorem parts_cases (p : Path) : p.rooted = false ∧ (∃ rest, p.segments = "." :: rest ∧ p.parts = (["."], rest)) ∨
    (p.rooted = true ∨ p.segments.head? ≠ some ".") ∧ p.parts = ([], p.segments) := by
  unfold parts
  split
  · next hrooted hsegments => exact .inl ⟨hrooted, _, hsegments, rfl⟩
  · next hnot =>
    refine .inr ⟨?_, rfl⟩
    cases hrooted : p.rooted with
    | true => exact .inl rfl
    | false =>
      right
      intro hhead
      obtain ⟨rest, hrest⟩ := List.head?_eq_some_iff.mp hhead
      exact hnot rest hrooted hrest

theorem parent?_cases (p : Path) :
    p.parent? = none ∧ p.components = p.top ∨
      ∃ q c, p.parent? = some q ∧ p.components = q.components ++ [c] ∧ q.rooted = p.rooted ∧
        q.segments <+: p.segments := by
  rcases p.parts_cases with ⟨hrooted, rest, hsegments, hparts⟩ | ⟨hhead, hparts⟩
  · obtain rfl : p = ⟨false, "." :: rest⟩ := by rw [← hrooted, ← hsegments]
    right
    rcases trimEnd_cases rest with ⟨hnil, hrest⟩ | ⟨front, s, c, hfront, hinitial, hrest⟩
    · refine ⟨empty, .current, ?_, ?_, rfl, List.nil_prefix⟩
      · simp [parent?, hparts, hnil]
      · simp [components, parts, hrest, empty]
    · refine ⟨⟨false, "." :: trimEnd front⟩, c, ?_, ?_, rfl, ?_⟩
      · simp [parent?, hparts, hfront]
      · simp [components, parts, hrest]
      · exact (List.prefix_cons_inj _).mpr ((prefix_trimEnd front).trans hinitial)
  · rcases trimEnd_cases p.segments with ⟨hnil, hrest⟩ | ⟨front, s, c, hfront, hinitial, hrest⟩
    · left
      constructor
      · simp [parent?, hparts, hnil]
      · simp [components, hparts, hrest, top]
    · right
      have hshort := (prefix_trimEnd front).trans hinitial
      have hplain : (⟨p.rooted, trimEnd front⟩ : Path).parts = ([], trimEnd front) := by
        rcases parts_cases ⟨p.rooted, trimEnd front⟩ with ⟨hrooted, tail, hdot, _⟩ | ⟨_, hq⟩
        · -- a `.` in front would be in front of the whole path
          rcases hhead with hhead | hhead
          · cases hhead.symm.trans hrooted
          · obtain ⟨others, hothers⟩ := hshort
            rw [show trimEnd front = "." :: tail from hdot] at hothers
            exact absurd (by rw [← hothers]; rfl) hhead
        · exact hq
      refine ⟨⟨p.rooted, trimEnd front⟩, c, ?_, ?_, rfl, hshort⟩
      · simp [parent?, hparts, hfront]
      · simp [components, hparts, hplain, hrest]

theorem prefix_top (p : Path) : p.top <+: p.components := by
  unfold components
  dsimp only
  rw [List.append_assoc]
  exact List.prefix_append _ _

theorem parent?_eq_none_iff (p : Path) : p.parent? = none ↔ p.components = p.top := by
  rcases p.parent?_cases with ⟨hnone, htop⟩ | ⟨q, c, hsome, hcomponents, hrooted, _⟩
  · simp [hnone, htop]
  · -- what is left still has the top
    have htop : p.top = q.top := by rw [top, top, hrooted]
    have hlength := q.prefix_top.length_le
    have hne : p.components ≠ p.top := by
      intro h
      rw [hcomponents, htop] at h
      have := congrArg List.length h
      rw [List.length_append, List.length_singleton] at this
      omega
    simp [hsome, hne]

theorem components_of_popped {start p : Path} {i : Nat} (h : start.popped i = some p) :
    (∃ dropped, start.components = p.components ++ dropped ∧ dropped.length = i) ∧ p.rooted = start.rooted ∧
      p.segments <+: start.segments := by
  induction i generalizing p with
  | zero =>
    obtain rfl := Option.some.inj h
    exact ⟨⟨[], by simp⟩, rfl, List.prefix_refl _⟩
  | succ i ih =>
    obtain ⟨q, hq, hparent⟩ := Option.bind_eq_some_iff.mp h
    obtain ⟨⟨dropped, hdropped, hlength⟩, hrooted, hinitial⟩ := ih hq
    rcases q.parent?_cases with ⟨hnone, _⟩ | ⟨r, c, hsome, hcomponents, hroot, hshort⟩
    · cases hnone.symm.trans hparent
    · obtain rfl := Option.some.inj (hsome.symm.trans hparent)
      refine ⟨⟨c :: dropped, ?_, by rw [List.length_cons, hlength]⟩, hroot.trans hrooted, hshort.trans hinitial⟩
      rw [hdropped, hcomponents, List.append_assoc, List.singleton_append]

theorem popped_eq_none {start : Path} {i : Nat} (h : start.components.length < i) : start.popped i = none := by
  rw [Option.eq_none_iff_forall_ne_some]
  intro p hp
  obtain ⟨⟨dropped, hdropped, hlength⟩, _⟩ := components_of_popped hp
  rw [hdropped, List.length_append, hlength] at h
  omega

theorem popped_succ (start : Path) (i : Nat) : start.popped (i + 1) = start.parent?.bind (popped · i) := by
  induction i with
  | zero => simp [popped]
  | succ i ih => rw [popped, ih, Option.bind_assoc]; rfl

theorem ancestors_eq (p : Path) : p.ancestors = p :: (p.parent?.map ancestors).getD [] := by
  rw [ancestors]
  split <;> simp [*]

example : (ofText "./web//sub/").ancestors = [ofText "./web//sub/", ofText "./web", ofText ".", empty] := by cbv

end Gloss.Path
