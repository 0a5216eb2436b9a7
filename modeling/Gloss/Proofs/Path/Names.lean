import Gloss.Path
import Mathlib.Data.List.Basic
import Mathlib.Data.List.Induction

namespace Gloss.Path

def IsName (s : String) : Prop := isVoid s = false ∧ s ≠ ".." ∧ '/' ∉ s.toList

instance : DecidablePred IsName := fun _ => inferInstanceAs (Decidable (_ ∧ _))

abbrev AreNames (names : List String) : Prop := ∀ s ∈ names, IsName s

theorem IsName.ofSegment? {s : String} (h : IsName s) : Component.ofSegment? s = some (.name s) := by
  simp [Component.ofSegment?, h.1, h.2.1]

theorem IsName.ne_current {s : String} (h : IsName s) : s ≠ "." := by
  rintro rfl
  exact absurd h.1 (by decide)

theorem IsName.ne_empty {s : String} (h : IsName s) : s ≠ "" := by
  rintro rfl
  exact absurd h.1 (by decide)

theorem trimEnd_names {names : List String} (h : AreNames names) : trimEnd names = names := by
  induction names using List.reverseRecOn with
  | nil => rfl
  | append_singleton rest s =>
    have hs : isVoid s = false := (h s (by simp)).1
    simp [trimEnd, hs]

theorem prefix_trimEnd (segments : List String) : trimEnd segments <+: segments := by
  rw [← List.reverse_suffix, trimEnd, List.reverse_reverse]
  exact List.dropWhile_suffix isVoid

theorem isVoid_getLast?_trimEnd {segments : List String} {s : String} (h : (trimEnd segments).getLast? = some s) :
    isVoid s = false := by
  rw [trimEnd, List.getLast?_reverse] at h
  have := List.head?_dropWhile_not isVoid segments.reverse
  rw [h] at this
  simpa using this

theorem trimStart_names {names : List String} (h : AreNames names) : trimStart names = names := by
  cases names with
  | nil => rfl
  | cons s rest => simp [trimStart, (h s (by simp)).1]

def stem (segments : List String) : List String :=
  if segments.getLast? = some "" then segments.dropLast else segments

@[simp] theorem stem_nil : stem [] = [] := rfl

theorem stem_cons (s : String) {rest : List String} (h : rest ≠ []) : stem (s :: rest) = s :: stem rest := by
  obtain ⟨t, ts, rfl⟩ := List.exists_cons_of_ne_nil h
  simp only [stem, List.getLast?_cons_cons, List.dropLast_cons_cons]
  split <;> rfl

theorem stem_append_name (segments : List String) {s : String} (h : IsName s) :
    stem (segments ++ [s]) = segments ++ [s] := by
  simp [stem, h.ne_empty]

theorem filterMap_stem (segments : List String) :
    (stem segments).filterMap Component.ofSegment? = segments.filterMap Component.ofSegment? := by
  unfold stem
  split
  · next h =>
    obtain ⟨rest, rfl⟩ := List.getLast?_eq_some_iff.mp h
    simp [Component.ofSegment?, isVoid]
  · rfl

theorem filterMap_of_stem {body segments : List String} (h : body = segments ∨ body = stem segments) :
    body.filterMap Component.ofSegment? = segments.filterMap Component.ofSegment? := by
  rcases h with rfl | rfl
  · rfl
  · exact filterMap_stem segments

theorem join_names (p : Path) {names : List String} (h : names ≠ []) :
    p.join (ofNames names) = ⟨p.rooted, stem p.segments ++ names⟩ := by
  have hn : names.isEmpty = false := by simp [h]
  unfold join ofNames
  simp only [hn, Bool.false_or, Bool.false_eq_true, if_false]
  split
  · next hp =>
    have : p.segments = [] := by simpa using (Bool.and_eq_true_iff.mp hp).1
    simp [this]
  · rfl

theorem join_join_name (p : Path) {names : List String} (hn : names ≠ []) (h : AreNames names) (s : String) :
    (p.join (ofNames names)).join (ofNames [s]) = p.join (ofNames (names ++ [s])) := by
  obtain ⟨rest, t, rfl⟩ := (List.eq_nil_or_concat names).resolve_left hn
  rw [List.concat_eq_append] at *
  rw [join_names p hn, join_names _ (List.cons_ne_nil s []), join_names p (by simp)]
  simp only [Path.mk.injEq, true_and]
  rw [← List.append_assoc, stem_append_name _ (h t (by simp))]
  simp

theorem parts_join_names (p : Path) {names : List String} (hn : names ≠ []) (h : AreNames names) :
    (p.join (ofNames names)).parts = (p.parts.1, stem p.parts.2 ++ names) := by
  rw [join_names p hn]
  obtain ⟨rooted, segments⟩ := p
  cases rooted with
  | true => simp [parts]
  | false =>
    match segments with
    | [] =>
      obtain ⟨s, rest, rfl⟩ := List.exists_cons_of_ne_nil hn
      have := (h s (by simp)).ne_current
      simp [parts, this]
    | [s] =>
      obtain ⟨t, rest, rfl⟩ := List.exists_cons_of_ne_nil hn
      have := (h t (by simp)).ne_current
      by_cases hd : s = "."
      · subst hd
        simp [parts, stem]
      · by_cases he : s = "" <;> simp [parts, stem, hd, he, this]
    | s :: t :: rest =>
      rw [stem_cons s (by simp)]
      by_cases hd : s = "."
      · subst hd
        simp [parts]
      · simp [parts, hd, stem_cons]

/-- `q` is `p` gone on by names; an empty last segment of `p` may be left out. -/
def GoesOn (p : Path) (names : List String) (q : Path) : Prop :=
  q.rooted = p.rooted ∧
    ∃ body, (body = p.parts.2 ∨ body = stem p.parts.2) ∧ q.parts = (p.parts.1, body ++ names)

theorem GoesOn.refl (p : Path) : p.GoesOn [] p := ⟨rfl, p.parts.2, Or.inl rfl, by simp⟩

theorem goesOn_join (p : Path) {names : List String} (hn : names ≠ []) (h : AreNames names) :
    p.GoesOn names (p.join (ofNames names)) :=
  ⟨by rw [join_names p hn], stem p.parts.2, Or.inr rfl, parts_join_names p hn h⟩

theorem GoesOn.components {p q : Path} {names : List String} (hq : p.GoesOn names q) (h : AreNames names) :
    q.components = p.components ++ names.map .name := by
  obtain ⟨hr, body, hb, hp⟩ := hq
  have hnames : names.filterMap Component.ofSegment? = names.map .name :=
    List.filterMap_eq_map_iff_forall_eq_some.mpr fun s hs => (h s hs).ofSegment?
  simp [Path.components, hr, hp, filterMap_of_stem hb, hnames]

theorem parts_names {names : List String} (h : AreNames names) : (ofNames names).parts = ([], names) := by
  cases names with
  | nil => rfl
  | cons s rest =>
    have := (h s (by simp)).ne_current
    simp [parts, ofNames, this]

theorem components_names {names : List String} (h : AreNames names) :
    (ofNames names).components = names.map .name := by
  have hq : empty.GoesOn names (ofNames names) := ⟨rfl, [], Or.inl rfl, parts_names h⟩
  simpa [empty, components, parts] using hq.components h

theorem ofText_head (text : String) (h : (ofText text).rooted = false) :
    (ofText text).segments.head? ≠ some "" := by
  unfold ofText ofChars at *
  cases hc : text.toList with
  | nil => simp
  | cons c cs =>
    simp only [hc] at h ⊢
    split at h
    · simp at h
    · next hs =>
      simp only [hs, if_false, segmentsOf, split, List.isEmpty_cons, Bool.false_eq_true]
      split <;> simp

theorem ofText_components (text : String) (h : (ofText text).components = []) : ofText text = empty := by
  have hh := ofText_head text
  generalize ofText text = p at h hh
  obtain ⟨rooted, segments⟩ := p
  cases rooted with
  | true => simp [components] at h
  | false =>
    cases segments with
    | nil => rfl
    | cons s rest =>
      have hs : s ≠ "" := by simpa using hh rfl
      by_cases hd : s = "."
      · subst hd
        simp [components, parts] at h
      · have : (Component.ofSegment? s).isSome := by simp [Component.ofSegment?, isVoid, hs, hd]
        simp_all [components, parts]

theorem trimStart_dropComponents (segments names : List String) (h : AreNames names) :
    trimStart (dropComponents (segments.filterMap Component.ofSegment?).length (segments ++ names)) = names := by
  induction segments with
  | nil => simpa [dropComponents] using trimStart_names h
  | cons s rest ih =>
    cases hs : isVoid s with
    | false => simpa [Component.ofSegment?, dropComponents, trimStart, hs] using ih
    | true =>
      have hskip : trimStart (s :: (rest ++ names)) = trimStart (rest ++ names) := by simp [trimStart, hs]
      cases hn : (rest.filterMap Component.ofSegment?).length with
      | zero =>
        rw [hn] at ih
        simpa [Component.ofSegment?, hs, hn, dropComponents, hskip] using ih
      | succ n =>
        rw [hn] at ih
        simpa [Component.ofSegment?, hs, hn, dropComponents, hskip] using ih

theorem GoesOn.stripPrefix? {text : String} {q : Path} {names : List String}
    (hq : (ofText text).GoesOn names q) (h : AreNames names) :
    q.stripPrefix? (ofText text) = some (ofNames names) := by
  have hc := hq.components h
  have hroot := ofText_components text
  obtain ⟨hr, body, hb, hp⟩ := hq
  generalize ofText text = p at *
  unfold Path.stripPrefix?
  simp only [hp, hc]
  cases he : p.components.isEmpty with
  | true =>
    obtain rfl : p = empty := hroot (List.isEmpty_iff.mp he)
    obtain rfl : body = [] := by simpa [empty, parts] using hb
    simp [hr, empty, parts, ofNames, trimEnd_names h]
  | false =>
    -- of the root's components, its mark and a leading `.` take no segment of the body
    have hlength : p.components.length - (if p.rooted then 1 else p.parts.1.length)
        = (body.filterMap Component.ofSegment?).length := by
      rw [filterMap_of_stem hb]
      cases hr : p.rooted with
      | true =>
        have hfront : p.parts.1 = [] := by simp [parts, hr]
        simp [Path.components, hr, hfront]
      | false => simp [Path.components, hr]
    have hstarts : p.components.isPrefixOf (p.components ++ names.map .name) = true := by
      simp [List.isPrefixOf_iff_prefix]
    simp only [hstarts, Bool.false_eq_true, if_false, if_true, hlength]
    rw [trimStart_dropComponents _ _ h, trimEnd_names h]

theorem parent?_names (names : List String) (s : String) (h : AreNames (names ++ [s])) :
    (ofNames (names ++ [s])).parent? = some (ofNames names) := by
  have hnames : AreNames names := fun t ht => h t (by simp [ht])
  simp only [parent?, parts_names h, trimEnd_names h]
  simp [trimEnd_names hnames, ofNames]

theorem mem_ancestors_names {names : List String} (h : AreNames names) (q : Path) :
    q ∈ (ofNames names).ancestors ↔ ∃ above, above <+: names ∧ q = ofNames above := by
  induction names using List.reverseRecOn with
  | nil =>
    rw [ancestors]
    simp [parent?, parts, ofNames, trimEnd]
  | append_singleton names s ih =>
    rw [ancestors]
    split
    · next hnone => simp [parent?_names names s h] at hnone
    · next p hsome =>
      obtain rfl : ofNames names = p := by simpa [parent?_names names s h] using hsome
      rw [List.mem_cons, ih fun t ht => h t (by simp [ht])]
      simp only [List.prefix_concat_iff]
      constructor
      · rintro (rfl | ⟨above, ha, rfl⟩)
        · exact ⟨names ++ [s], Or.inl (by simp), rfl⟩
        · exact ⟨above, Or.inr ha, rfl⟩
      · rintro ⟨above, (rfl | ha), rfl⟩
        · exact Or.inl (by simp)
        · exact Or.inr ⟨above, ha, rfl⟩

theorem components_names_inj {names others : List String} (h : AreNames names) (h' : AreNames others) :
    (ofNames names).components = (ofNames others).components ↔ names = others := by
  have hinj : Function.Injective Component.name := fun _ _ h => Component.name.inj h
  rw [components_names h, components_names h']
  exact List.map_injective_iff.mpr hinj |>.eq_iff

end Gloss.Path
