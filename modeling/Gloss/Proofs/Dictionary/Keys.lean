import Gloss.Format
import Gloss.Proofs.Dictionary.Layers

namespace Gloss

theorem Properties.key_ne_empty {lines : List (List Char)} {e : String × String} (h : e ∈ entries lines) :
    e.1 ≠ "" := by
  obtain ⟨⟨key, value⟩, hm, rfl⟩ := List.mem_map.mp h
  have hkey : key ≠ [] := by simpa using (List.mem_filter.mp hm).2
  simpa using hkey

namespace Json

mutual

theorem leaves_key_ne_empty (key : String) : ∀ (j : Json), ∀ e ∈ leaves key j, e.1 ≠ ""
  | .text s, e, h => by
    rw [leaves] at h
    split at h
    · cases h
    · next hkey =>
      obtain rfl := List.mem_singleton.mp h
      simpa using hkey
  | .object members, e, h => by
    rw [leaves] at h
    exact memberLeaves_key_ne_empty key members e h
  | .null, _, h | .bool _, _, h | .number _, _, h | .list _, _, h => by
    rw [leaves] at h
    · cases h
    all_goals simp

theorem memberLeaves_key_ne_empty (key : String) : ∀ (members : List (String × Json)),
    ∀ e ∈ memberLeaves key members, e.1 ≠ ""
  | [], _, h => by
    rw [memberLeaves] at h
    cases h
  | (name, j) :: members, e, h => by
    rw [memberLeaves, List.mem_append] at h
    rcases h with h | h
    · exact leaves_key_ne_empty (keyBelow key name) j e h
    · exact memberLeaves_key_ne_empty key members e h

end

end Json

theorem Format.key_ne_empty {path : Path} {text key value : String} {entries : Dictionary}
    (h : parseFile path text = .ok entries) (hvalue : entries[key]? = some value) : key ≠ "" := by
  unfold parseFile at h
  split at h
  · next format _ =>
    cases format with
    | properties =>
      obtain rfl := Except.ok.inj h
      exact Properties.key_ne_empty (Dictionary.mem_of_getElem?_ofPairs hvalue)
    | json =>
      rw [parse] at h
      cases hread : (Json.read text).mapError Error.json with
      | error e => simp [hread, bind, Except.bind] at h
      | ok j =>
        rw [hread] at h
        cases j with
        | object members =>
          obtain rfl := Except.ok.inj h
          exact Json.memberLeaves_key_ne_empty "" members _ (Dictionary.mem_of_getElem?_ofPairs hvalue)
        | _ => cases h
  · obtain rfl := Except.ok.inj h
    simp at hvalue

end Gloss
