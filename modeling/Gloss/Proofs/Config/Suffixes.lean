import Gloss.Config
import Mathlib.Data.List.DropRight

namespace Gloss

theorem splitCommas_eq (cs : List Char) : splitCommas cs = cs.splitOn ',' := by
  induction cs with
  | nil => rfl
  | cons c cs ih =>
    rw [splitCommas, ih, List.splitOn_cons_eq_if_modifyHead]
    simp only [beq_iff_eq]
    split
    · rfl
    · cases hpieces : cs.splitOn ',' with
      | nil => exact absurd hpieces (List.splitOn_ne_nil ',' cs)
      | cons piece pieces => rfl

theorem comma_not_mem_splitCommas (cs : List Char) : ∀ piece ∈ splitCommas cs, ',' ∉ piece := by
  induction cs with
  | nil => simp [splitCommas]
  | cons c cs ih =>
    rw [splitCommas]
    split
    · exact List.forall_mem_cons.mpr ⟨List.not_mem_nil, ih⟩
    · next hc =>
      cases hpieces : splitCommas cs with
      | nil => simpa using Ne.symm hc
      | cons piece pieces =>
        rw [hpieces] at ih
        obtain ⟨hpiece, hrest⟩ := List.forall_mem_cons.mp ih
        refine List.forall_mem_cons.mpr ⟨?_, hrest⟩
        exact List.not_mem_cons_of_ne_of_not_mem (Ne.symm hc) hpiece

theorem trim_eq (cs : List Char) : trim cs = (cs.dropWhile isWhite).rdropWhile isWhite := rfl

theorem trim_subset (cs : List Char) : trim cs ⊆ cs :=
  List.Subset.trans (List.rdropWhile_prefix isWhite _).subset (List.dropWhile_suffix isWhite).subset

structure IsItem (item : List Char) : Prop where
  nonempty : item ≠ []
  comma : ',' ∉ item
  first : isWhite (item.head nonempty) = false
  last : isWhite (item.getLast nonempty) = false

theorem isItem_trim {piece : List Char} (hcomma : ',' ∉ piece) (hne : trim piece ≠ []) : IsItem (trim piece) where
  nonempty := hne
  comma := fun hm => hcomma (trim_subset piece hm)
  first := by
    have hstart : trim piece <+: piece.dropWhile isWhite := List.rdropWhile_prefix isWhite _
    rw [hstart.head hne]
    exact List.head_dropWhile_not isWhite _
  last := Bool.not_eq_true _ ▸ List.rdropWhile_last_not isWhite _ hne

theorem IsItem.trim_eq {item : List Char} (h : IsItem item) : trim item = item := by
  have hfirst : item.dropWhile isWhite = item := by
    cases item with
    | nil => rfl
    | cons c cs => exact List.dropWhile_cons_of_neg (Bool.eq_false_iff.mp h.first)
  rw [Gloss.trim_eq, hfirst, List.rdropWhile_eq_self_iff]
  exact fun _ => Bool.eq_false_iff.mp h.last

namespace Config

theorem isItem_of_mem_suffixesOf {cs item : List Char} (h : item ∈ suffixesOf cs) : IsItem item := by
  rw [suffixesOf, List.mem_filter, List.mem_map] at h
  obtain ⟨⟨piece, hpiece, rfl⟩, hne⟩ := h
  exact isItem_trim (comma_not_mem_splitCommas cs piece hpiece) (by simpa using hne)

theorem suffixesOf_intercalate {items : List (List Char)} (h : ∀ item ∈ items, IsItem item) :
    suffixesOf ([','].intercalate items) = items := by
  cases items with
  | nil => rfl
  | cons item items =>
    have hsplit := List.splitOn_intercalate ',' (fun item hm => (h item hm).comma) (List.cons_ne_nil item items)
    have htrim : (item :: items).map trim = (item :: items).map id :=
      List.map_congr_left fun item hm => (h item hm).trim_eq
    rw [suffixesOf, splitCommas_eq, hsplit, htrim, List.map_id, List.filter_eq_self]
    intro item hm
    simpa using (h item hm).nonempty

/-- The same settings with their suffixes listed as they are read, between commas and nothing else. -/
def respelled (config : Config) : Config := { config with suffix := ",".intercalate config.suffixes }

theorem suffixes_respelled (config : Config) : config.respelled.suffixes = config.suffixes := by
  have htexts : String.toList ∘ String.ofList = id := by
    funext item
    exact String.toList_ofList
  have hrespelled : config.respelled.suffix.toList = [','].intercalate (suffixesOf config.suffix.toList) := by
    rw [respelled, String.toList_intercalate, suffixes, List.map_map, htexts, List.map_id]
    rfl
  rw [suffixes, hrespelled, suffixesOf_intercalate fun item hm => isItem_of_mem_suffixesOf hm, suffixes]

theorem validate_respelled (config : Config) : config.respelled.validate = config.validate := by
  rw [validate, validate, checkFunction, checkFunction, respelled]

end Config

end Gloss
