import Gloss.Hint
import Gloss.Proofs.Escape.Locality

namespace Gloss

namespace Candidate

variable {dictionary : Dictionary}

theorem mem_ofDictionary_iff {candidate : Candidate} : candidate ∈ ofDictionary dictionary ↔
    ∃ raw, dictionary[candidate.key]? = some raw ∧ Escape.decode raw = candidate.text := by
  obtain ⟨key, text⟩ := candidate
  rw [ofDictionary, List.mem_map]
  constructor
  · rintro ⟨⟨key', raw⟩, hentry, hcandidate⟩
    obtain ⟨rfl, rfl⟩ := Candidate.mk.inj hcandidate
    exact ⟨raw, Std.ExtTreeMap.mem_toList_iff_getElem?_eq_some.mp hentry, rfl⟩
  · rintro ⟨raw, hraw, rfl⟩
    exact ⟨(key, raw), Std.ExtTreeMap.mem_toList_iff_getElem?_eq_some.mpr hraw, rfl⟩

theorem nodup_ofDictionary (dictionary : Dictionary) : (ofDictionary dictionary).Nodup := by
  refine List.pairwise_map.mpr (dictionary.distinct_keys_toList.imp fun hkeys heq => ?_)
  exact hkeys (Std.LawfulEqOrd.compare_eq_iff_eq.mpr (Candidate.mk.inj heq).1)

theorem filter_ofDictionary (key : String) : (ofDictionary dictionary).filter (·.key = key) =
    (dictionary[key]?.map fun raw => ⟨key, Escape.decode raw⟩).toList := by
  have hmem : ∀ candidate, candidate ∈ (ofDictionary dictionary).filter (·.key = key) ↔
      candidate ∈ (dictionary[key]?.map fun raw => (⟨key, Escape.decode raw⟩ : Candidate)).toList := by
    rintro ⟨key', text⟩
    rw [List.mem_filter, mem_ofDictionary_iff, decide_eq_true_iff, Option.mem_toList, Option.map_eq_some_iff]
    constructor
    · rintro ⟨⟨raw, hraw, rfl⟩, rfl⟩
      exact ⟨raw, hraw, rfl⟩
    · rintro ⟨raw, hraw, hcandidate⟩
      obtain ⟨rfl, rfl⟩ := Candidate.mk.inj hcandidate
      exact ⟨⟨raw, hraw, rfl⟩, rfl⟩
  have hnodup := (nodup_ofDictionary dictionary).filter (·.key = key)
  cases hkey : dictionary[key]? with
  | none =>
    rw [hkey] at hmem
    exact List.perm_nil.mp ((List.perm_ext_iff_of_nodup hnodup List.nodup_nil).mpr hmem)
  | some raw =>
    rw [hkey] at hmem
    exact List.perm_singleton.mp ((List.perm_ext_iff_of_nodup hnodup (List.nodup_singleton _)).mpr hmem)

end Candidate

namespace Hint

open Script

def isTranslated (dictionary : Dictionary) (key : String) : Bool := dictionary[key]?.any (· ≠ "")

structure Tells (dictionary : Dictionary) (site : CallSite) (hint : Hint) : Prop where
  key : hint.key = site.key
  offset : hint.offset = site.stop
  position : hint.position = site.stopPosition
  text : dictionary[site.key]?.map Escape.decode = some hint.text
  offered : (Candidate.ofDictionary dictionary).filter (·.key = site.key) = [⟨site.key, hint.text⟩]

theorem ofSite?_untranslated {dictionary : Dictionary} {site : CallSite} (h : isTranslated dictionary site.key = false) :
    ofSite? dictionary site = none := by
  have htext : Escape.decode (dictionary[site.key]?.getD "") = "" := by
    rw [Escape.decode_eq_empty_iff]
    cases hraw : dictionary[site.key]? with
    | none => rfl
    | some raw => simpa [isTranslated, hraw] using h
  simp [ofSite?, htext]

theorem ofSite?_translated {dictionary : Dictionary} {site : CallSite} (h : isTranslated dictionary site.key = true) :
    ∃ hint, ofSite? dictionary site = some hint ∧ Tells dictionary site hint := by
  obtain ⟨raw, hraw, hne⟩ := (Option.any_eq_true _ _).mp h
  have htext : Escape.decode raw ≠ "" := by simpa [Escape.decode_eq_empty_iff] using hne
  refine ⟨⟨site.key, site.stop, site.stopPosition, Escape.decode raw⟩, ?_, rfl, rfl, rfl, ?_, ?_⟩
  · simp [ofSite?, hraw, htext]
  · rw [hraw, Option.map_some]
  · rw [Candidate.filter_ofDictionary, hraw, Option.map_some, Option.toList_some]

/-- The calls with a hint are those whose key has a raw value that is not empty, in their order, and each hint
tells what the one candidate with the key tells. No value but the empty one decodes to the empty text. -/
theorem resolve_tells (sites : List CallSite) (dictionary : Dictionary) :
    List.Forall₂ (Tells dictionary) (sites.filter (isTranslated dictionary ·.key)) (resolve sites dictionary) ∧
      ∀ raw, Escape.decode raw = "" ↔ raw = "" := by
  refine ⟨?_, fun raw => Escape.decode_eq_empty_iff⟩
  induction sites with
  | nil => exact .nil
  | cons site sites ih =>
    rw [resolve, List.filterMap_cons]
    cases h : isTranslated dictionary site.key with
    | false =>
      rw [List.filter_cons_of_neg (by simp [h]), ofSite?_untranslated h]
      exact ih
    | true =>
      obtain ⟨hint, hhint, htells⟩ := ofSite?_translated h
      rw [List.filter_cons_of_pos (by exact h), hhint]
      exact .cons htells ih

end Hint

end Gloss
