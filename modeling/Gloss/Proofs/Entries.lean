namespace Gloss.Entries

variable {α β : Type} [BEq α] [LawfulBEq α] [DecidableEq α]

theorem lookup_cons (other : α) (e : α × β) (entries : List (α × β)) :
    (e :: entries).lookup other = if other = e.1 then some e.2 else entries.lookup other := by
  obtain ⟨key, value⟩ := e
  rw [List.lookup_cons]
  by_cases h : other = key
  · simp [h]
  · simp [h, beq_eq_false_iff_ne.mpr h]

theorem lookup_eq_some_iff {entries : List (α × β)} (h : (entries.map (·.1)).Nodup) (key : α) (value : β) :
    entries.lookup key = some value ↔ (key, value) ∈ entries := by
  induction entries with
  | nil => simp
  | cons e entries ih =>
    obtain ⟨first, found⟩ := e
    obtain ⟨hfirst, hrest⟩ := List.nodup_cons.mp h
    rw [lookup_cons, List.mem_cons]
    by_cases hkey : key = first
    · subst hkey
      have hout : (key, value) ∉ entries := fun hm => hfirst (List.mem_map.mpr ⟨_, hm, rfl⟩)
      simp [hout, eq_comm]
    · simp [hkey, ih hrest]

section Put

variable (put : List (α × β) → List (α × β)) {key : α} {value : β} (hnil : put [] = [(key, value)])
  (hcons : ∀ e entries, put (e :: entries) = if e.1 = key then (key, value) :: entries else e :: put entries)

include hnil hcons

theorem lookup_put (entries : List (α × β)) (other : α) :
    (put entries).lookup other = if other = key then some value else entries.lookup other := by
  induction entries with
  | nil => rw [hnil, lookup_cons]
  | cons e entries ih =>
    rw [hcons, lookup_cons]
    by_cases he : e.1 = key
    · rw [if_pos he, lookup_cons, he]
      split <;> rfl
    · rw [if_neg he, lookup_cons, ih]
      by_cases h : other = e.1
      · simp [h, he]
      · simp only [if_neg h]

omit hnil in
theorem put_of_lookup {entries : List (α × β)} (h : entries.lookup key = some value) : put entries = entries := by
  induction entries with
  | nil => cases h
  | cons e entries ih =>
    obtain ⟨first, found⟩ := e
    rw [lookup_cons] at h
    rw [hcons]
    by_cases he : first = key
    · rw [if_pos he.symm] at h
      obtain rfl := Option.some.inj h
      rw [if_pos he, he]
    · rw [if_neg (Ne.symm he)] at h
      rw [if_neg he, ih h]

omit [BEq α] [LawfulBEq α] in
theorem mem_put {entries : List (α × β)} {e : α × β} (h : e ∈ put entries) : e = (key, value) ∨ e ∈ entries := by
  induction entries with
  | nil =>
    rw [hnil] at h
    exact Or.inl (List.mem_singleton.mp h)
  | cons first entries ih =>
    rw [hcons] at h
    split at h
    · exact (List.mem_cons.mp h).imp_right (List.mem_cons_of_mem first)
    · rcases List.mem_cons.mp h with rfl | h
      · exact Or.inr List.mem_cons_self
      · exact (ih h).imp_right (List.mem_cons_of_mem first)

omit [BEq α] [LawfulBEq α] in
theorem nodup_put {entries : List (α × β)} (h : (entries.map (·.1)).Nodup) : ((put entries).map (·.1)).Nodup := by
  induction entries with
  | nil => simp [hnil]
  | cons first entries ih =>
    obtain ⟨hfirst, hentries⟩ := List.nodup_cons.mp h
    rw [hcons]
    split
    · next he =>
      rw [List.map_cons, ← he]
      exact h
    · next hne =>
      refine List.nodup_cons.mpr ⟨?_, ih hentries⟩
      intro hm
      obtain ⟨e, he, hkey⟩ := List.mem_map.mp hm
      rcases mem_put put hnil hcons he with rfl | he
      · exact hne hkey.symm
      · exact hfirst (hkey ▸ List.mem_map_of_mem he)

end Put

end Gloss.Entries
