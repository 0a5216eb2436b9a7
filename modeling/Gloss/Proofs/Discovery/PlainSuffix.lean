import Gloss.Proofs.Discovery.Coverage

namespace Gloss

namespace Glob

def specials : List Char := ['?', '*', '[', '/']

theorem tokensOf_plain {cs : List Char} (hplain : ∀ c ∈ cs, c ∉ specials) (done : List Token) (offset : Nat)
    (before : Option Char) {bound : Nat} (hbound : cs.length ≤ bound) :
    tokensOf done offset before bound cs = .ok (done ++ cs.map .char) := by
  induction cs generalizing done offset before bound with
  | nil => cases bound <;> simp [tokensOf]
  | cons c cs ih =>
    obtain ⟨hc, hcs⟩ := List.forall_mem_cons.mp hplain
    obtain ⟨bound, rfl⟩ : ∃ n, bound = n + 1 := ⟨bound - 1, by simp at hbound; omega⟩
    have htoken : token offset before c cs = .ok (.char c, cs) := by
      simp only [specials, List.mem_cons, not_or] at hc
      simp [token, hc]
    have hpush : push done (.char c) = done ++ [.char c] := by simp [push]
    rw [tokensOf, htoken]
    dsimp only [bind, Except.bind]
    rw [hpush, ih hcs _ _ _ (by simpa using hbound)]
    simp

theorem parse_suffixPattern {suffix : String} (hplain : ∀ c ∈ suffix.toList, c ∉ specials) :
    parse (Discovery.Filter.suffixPattern suffix) = .ok ⟨.directories :: .sequence :: suffix.toList.map .char⟩ := by
  have htext : (Discovery.Filter.suffixPattern suffix).toList = '*' :: '*' :: '/' :: '*' :: suffix.toList := by
    simp [Discovery.Filter.suffixPattern]
  have hfirst : token 0 none '*' ('*' :: '/' :: '*' :: suffix.toList) = .ok (.directories, '*' :: suffix.toList) := rfl
  have hnone : suffix.toList.takeWhile (· == '*') = [] ∧ suffix.toList.dropWhile (· == '*') = suffix.toList := by
    cases hs : suffix.toList with
    | nil => simp
    | cons c cs =>
      have hc : c ≠ '*' := by
        rintro rfl
        exact hplain '*' (by simp [hs]) (by decide)
      simp [hc]
  have hsecond (offset : Nat) (before : Option Char) :
      token offset before '*' suffix.toList = .ok (.sequence, suffix.toList) := by
    simp [token, hnone, wildcard]
  rw [parse, htext, List.length_cons, tokensOf, hfirst]
  dsimp only [bind, Except.bind]
  rw [List.length_cons, List.length_cons, tokensOf, hsecond]
  dsimp only [bind, Except.bind]
  rw [tokensOf_plain hplain _ _ _ (by simp only [List.length_cons]; omega)]
  rfl

variable {w : List Char}

theorem run_char_cons (d c : Char) (ts : List Token) (cs : List Char) :
    run (.char d :: ts) (c :: cs) = if c == d then run ts cs else .failed := rfl

theorem run_literal (w cs : List Char) :
    run (w.map .char) cs = if cs = w then .matched else if cs <+: w then .exhausted else .failed := by
  induction w generalizing cs with
  | nil => cases cs <;> simp [run]
  | cons d w ih =>
    cases cs with
    | nil => simp [run]
    | cons c cs =>
      rw [List.map_cons, run_char_cons, ih]
      by_cases hc : c = d
      · simp [hc]
      · simp [hc]

theorem afterSequence_closed (hw : '/' ∉ w) {s : List Char} (hs : '/' ∉ s) (rest : List Char) :
    afterSequence (run (w.map .char)) (s ++ '/' :: rest) = .failed := by
  have hnext (t : List Char) : run (w.map .char) (t ++ '/' :: rest) = .failed := by
    have hseparator : '/' ∈ t ++ '/' :: rest := by simp
    have hne : t ++ '/' :: rest ≠ w := fun h => hw (h ▸ hseparator)
    have hinitial : ¬ t ++ '/' :: rest <+: w := fun h => hw (h.subset hseparator)
    rw [run_literal, if_neg hne, if_neg hinitial]
  induction s with
  | nil =>
    have hstart := hnext []
    rw [List.nil_append] at hstart ⊢
    rw [afterSequence, hstart]
    simp
  | cons c s ih =>
    simp only [List.mem_cons, not_or] at hs
    have hstart := hnext (c :: s)
    rw [List.cons_append] at hstart ⊢
    rw [afterSequence, hstart]
    simp [Ne.symm hs.1, ih hs.2]

theorem afterSequence_last {s : List Char} (hs : '/' ∉ s) :
    afterSequence (run (w.map .char)) s = .matched ↔ w <:+ s := by
  induction s with
  | nil =>
    rw [afterSequence, run_literal]
    cases w <;> simp
  | cons c s ih =>
    simp only [List.mem_cons, not_or] at hs
    rw [afterSequence, run_literal, List.suffix_cons_iff, eq_comm (a := w)]
    by_cases hwhole : c :: s = w
    · simp [hwhole]
    · by_cases hinitial : c :: s <+: w
      · have hlong : ¬ w <:+ s := by
          intro h
          have hshort := hinitial.length_le
          rw [List.length_cons] at hshort
          exact absurd h.length_le (by omega)
        simp [hinitial, hwhole, hlong]
      · simp [hinitial, hwhole, Ne.symm hs.1, ih hs.2]

theorem afterSeparators_closed (next : List Char → Outcome) {s : List Char} (hs : '/' ∉ s) (rest : List Char) :
    afterSeparators next (s ++ '/' :: rest) = afterDirectories next rest := by
  induction s with
  | nil => simp [afterSeparators, afterDirectories]
  | cons c s ih =>
    simp only [List.mem_cons, not_or] at hs
    rw [List.cons_append, afterSeparators, if_neg (Ne.symm hs.1), ih hs.2]

theorem afterSeparators_last (next : List Char → Outcome) {s : List Char} (hs : '/' ∉ s) :
    afterSeparators next s = next [] := by
  induction s with
  | nil => rfl
  | cons c s ih =>
    simp only [List.mem_cons, not_or] at hs
    rw [afterSeparators, if_neg (Ne.symm hs.1), ih hs.2]

theorem afterDirectories_last {s : List Char} (hs : '/' ∉ s) :
    afterDirectories (afterSequence (run (w.map .char))) s = .matched ↔ w <:+ s := by
  rw [← afterSequence_last hs, afterDirectories]
  cases hout : afterSequence (run (w.map .char)) s with
  | failed =>
    -- an empty suffix would have been found at the end
    have hw : w ≠ [] := by
      rintro rfl
      have := (afterSequence_last hs).mpr List.nil_suffix
      cases hout.symm.trans this
    have hend : run (w.map .char) [] ≠ .matched := by simp [run_literal, hw.symm]
    simpa [afterSeparators_last _ hs, afterSequence] using hend
  | _ => simp

theorem run_ending (hw : '/' ∉ w) {name : List Char} (hname : '/' ∉ name) {above : List (List Char)}
    (habove : ∀ s ∈ above, '/' ∉ s) :
    run (.directories :: .sequence :: w.map .char) (['/'].intercalate (above ++ [name])) = .matched ↔ w <:+ name := by
  simp only [run]
  induction above with
  | nil =>
    rw [List.nil_append, List.intercalate_singleton]
    exact afterDirectories_last hname
  | cons s above ih =>
    obtain ⟨hs, habove⟩ := List.forall_mem_cons.mp habove
    have htext : ['/'].intercalate (s :: above ++ [name]) = s ++ '/' :: ['/'].intercalate (above ++ [name]) := by
      rw [List.cons_append, List.intercalate_cons_of_ne_nil (by simp), List.append_assoc, List.singleton_append]
    rw [htext, afterDirectories, afterSequence_closed hw hs]
    dsimp only
    rw [afterSeparators_closed _ hs, ih habove]

end Glob

namespace Discovery

theorem patterns_plain {suffixes : List String} (hplain : ∀ suffix ∈ suffixes, ∀ c ∈ suffix.toList, c ∉ Glob.specials) :
    Filter.patterns (suffixes.map Filter.suffixPattern) =
      suffixes.map fun suffix => ⟨.directories :: .sequence :: suffix.toList.map .char⟩ := by
  rw [Filter.patterns, List.filterMap_map]
  refine List.filterMap_eq_map_iff_forall_eq_some.mpr fun suffix hs => ?_
  rw [Function.comp_apply, Glob.parse_suffixPattern (hplain suffix hs)]
  rfl

/-- A suffix without wildcards means that the last name ends with it: the first such suffix counts, none for a
configuration file, and what the directories are called makes no difference. -/
theorem suffixIndex?_plain {suffixes : List String}
    (hplain : ∀ suffix ∈ suffixes, ∀ c ∈ suffix.toList, c ∉ Glob.specials) (ignores : List String)
    {above : List String} {name : String} (h : Path.AreNames (above ++ [name])) :
    (Filter.ofSettings suffixes ignores).suffixIndex? (.ofNames (above ++ [name])) =
      if name = configName then none else suffixes.findIdx? fun suffix => suffix.toList.isSuffixOf name.toList := by
  have hhits (suffix : String) (hs : suffix ∈ suffixes) :
      Glob.hits ⟨.directories :: .sequence :: suffix.toList.map .char⟩ (Path.ofNames (above ++ [name])).text =
        suffix.toList.isSuffixOf name.toList := by
    rw [Bool.eq_iff_iff, List.isSuffixOf_iff_suffix, Glob.hits, text_names, String.toList_intercalate, beq_iff_eq,
      List.map_append, List.map_singleton]
    refine Glob.run_ending (fun hm => hplain suffix hs '/' hm (by decide)) (h name (by simp)).2.2 ?_
    intro cs hcs
    obtain ⟨s, hm, rfl⟩ := List.mem_map.mp hcs
    exact (h s (by simp [hm])).2.2
  rw [Filter.suffixIndex?, fileName?_names h, List.getLast?_concat]
  simp only [Option.some.injEq]
  refine if_congr Iff.rfl rfl ?_
  rw [Filter.ofSettings, patterns_plain hplain, List.findIdx?_map]
  simpa [List.findIdx?_map, Function.comp_def] using congrArg (List.findIdx? id) (List.map_congr_left hhits)

theorem directory_name_not_counted :
    (∀ suffix ∈ [".i18n.json", ".json"], ∀ c ∈ suffix.toList, c ∉ Glob.specials) ∧
      Path.AreNames (["web", "en.i18n.json"] ++ [".json.json"]) ∧
      (Filter.ofSettings [".i18n.json", ".json"] []).suffixIndex?
        (.ofNames (["web", "en.i18n.json"] ++ [".json.json"])) = some 1 := by
  have hplain : ∀ suffix ∈ [".i18n.json", ".json"], ∀ c ∈ suffix.toList, c ∉ Glob.specials := by
    simp [Glob.specials]
  have hnames : Path.AreNames (["web", "en.i18n.json"] ++ [".json.json"]) := by decide
  refine ⟨hplain, hnames, ?_⟩
  rw [suffixIndex?_plain hplain [] hnames]
  decide +kernel

end Discovery

end Gloss
