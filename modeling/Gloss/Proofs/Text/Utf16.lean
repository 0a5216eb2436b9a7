import Gloss.Text.Utf16
import Gloss.Text.LineIndex
import Mathlib

namespace Gloss

theorem byteLength_eq_utf8Len (cs : List Char) : byteLength cs = String.utf8Len cs := by
  induction cs with
  | nil => rfl
  | cons c cs ih => rw [byteLength_cons, ih, String.utf8Len_cons, Nat.add_comm]

@[simp] theorem byteLength_toList (s : String) : byteLength s.toList = s.utf8ByteSize := by
  rw [byteLength_eq_utf8Len, ← String.utf8ByteSize_ofList, String.ofList_toList]

theorem isValid_iff_byteLength {s : String} {offset : Nat} :
    (⟨offset⟩ : String.Pos.Raw).IsValid s ↔ ∃ before after, s.toList = before ++ after ∧ offset = byteLength before := by
  rw [String.Pos.Raw.isValid_iff_exists_append]
  constructor
  · rintro ⟨s₁, s₂, rfl, hoffset⟩
    refine ⟨s₁.toList, s₂.toList, String.toList_append, ?_⟩
    rw [byteLength_toList]
    exact congrArg String.Pos.Raw.byteIdx hoffset
  · rintro ⟨before, after, h, rfl⟩
    refine ⟨String.ofList before, String.ofList after, ?_, ?_⟩
    · rw [← String.ofList_append, ← h, String.ofList_toList]
    · rw [String.rawEndPos, String.utf8ByteSize_ofList, byteLength_eq_utf8Len]

namespace Utf16

theorem width_pos (c : Char) : 0 < width c := by
  unfold width
  split <;> decide

theorem toNat_lt (c : Char) : c.toNat < 0x110000 := by
  rcases c.valid with h | h
  · exact Nat.lt_trans h (by decide)
  · exact h.2

theorem units_lt {c : Char} {u : Nat} (h : u ∈ units c) : u < 0x10000 := by
  have hc := toNat_lt c
  unfold units at h
  split at h
  · obtain rfl := List.mem_singleton.mp h
    assumption
  · simp only [List.mem_cons, List.not_mem_nil, or_false] at h
    omega

theorem units_single {u : Nat} (hu : u < 0x10000) (h : isSurrogate u = false) : units (Char.ofNat u) = [u] := by
  have hvalid : u.isValidChar := by
    simp only [isSurrogate, isHigh, isLow, Bool.or_eq_false_iff, Bool.and_eq_false_iff, decide_eq_false_iff_not] at h
    simp only [Nat.isValidChar]
    omega
  rw [units, Char.toNat_ofNat, if_pos hvalid, if_pos hu]

theorem units_joined {high low : Nat} (hhigh : isHigh high = true) (hlow : isLow low = true) :
    units (joined high low) = [high, low] := by
  simp only [isHigh, isLow, Bool.and_eq_true, decide_eq_true_eq] at hhigh hlow
  have hvalid : (0x10000 + (high - 0xD800) * 0x400 + (low - 0xDC00)).isValidChar := by
    simp only [Nat.isValidChar]
    omega
  rw [units, joined, Char.toNat_ofNat, if_pos hvalid, if_neg (by omega), List.cons.injEq, List.cons.injEq]
  refine ⟨?_, ?_, rfl⟩
  · omega
  · omega

theorem units_of_single? {u : Nat} {c : Char} (hu : u < 0x10000) (h : single? u = some c) : units c = [u] := by
  unfold single? at h
  split at h
  · cases h
  · next hnot =>
    obtain rfl := Option.some.inj h
    exact units_single hu (by simpa using hnot)

theorem units_of_decode? {us : List Nat} {cs : List Char} (h : decode? us = some cs) (hus : ∀ u ∈ us, u < 0x10000) :
    cs.flatMap units = us := by
  induction us using decode?.induct generalizing cs with
  | case1 =>
    obtain rfl : [] = cs := by simpa [decode?] using h
    rfl
  | case2 u =>
    obtain ⟨c, hc, rfl⟩ := Option.map_eq_some_iff.mp h
    simpa using units_of_single? (hus u (by simp)) hc
  | case3 u v us hpair ih =>
    rw [decode?, if_pos hpair] at h
    obtain ⟨ds, hds, rfl⟩ := Option.map_eq_some_iff.mp h
    obtain ⟨hhigh, hlow⟩ := Bool.and_eq_true_iff.mp hpair
    rw [List.flatMap_cons, units_joined hhigh hlow, ih hds fun w hw => hus w (by simp [hw])]
    rfl
  | case4 u v us hpair ih =>
    rw [decode?, if_neg hpair] at h
    obtain ⟨c, hc, h⟩ := Option.bind_eq_some_iff.mp h
    obtain ⟨ds, hds, rfl⟩ := Option.map_eq_some_iff.mp h
    rw [List.flatMap_cons, units_of_single? (hus u (by simp)) hc, ih hds fun w hw => hus w (by simp_all)]
    rfl

theorem units_cases (c : Char) : (units c = [c.toNat] ∧ isSurrogate c.toNat = false) ∨
    ∃ high low, units c = [high, low] ∧ isHigh high = true ∧ isLow low = true ∧ joined high low = c := by
  have hc := toNat_lt c
  by_cases hone : c.toNat < 0x10000
  · refine Or.inl ⟨if_pos hone, ?_⟩
    have hvalid : c.toNat < 0xD800 ∨ 0xDFFF < c.toNat ∧ c.toNat < 0x110000 := c.valid
    simp only [isSurrogate, isHigh, isLow, Bool.or_eq_false_iff, Bool.and_eq_false_iff, decide_eq_false_iff_not]
    omega
  · refine Or.inr ⟨_, _, if_neg hone, ?_, ?_, ?_⟩
    · simp only [isHigh, Bool.and_eq_true, decide_eq_true_eq]
      omega
    · simp only [isLow, Bool.and_eq_true, decide_eq_true_eq]
      omega
    · have hcode : 0x10000 + (0xD800 + (c.toNat - 0x10000) / 0x400 - 0xD800) * 0x400 +
          (0xDC00 + (c.toNat - 0x10000) % 0x400 - 0xDC00) = c.toNat := by omega
      rw [joined, hcode, Char.ofNat_toNat]

theorem decode_units_append (c : Char) (us : List Nat) : decode (units c ++ us) = c :: decode us := by
  rcases units_cases c with ⟨hunits, hplain⟩ | ⟨high, low, hunits, hhigh, hlow, rfl⟩
  · have hsingle : single c.toNat = c := by rw [single, hplain, if_neg Bool.false_ne_true, Char.ofNat_toNat]
    rw [hunits]
    cases us with
    | nil => simp [decode, hsingle]
    | cons v us =>
      have hnot : isHigh c.toNat = false := (Bool.or_eq_false_iff.mp hplain).1
      simp [decode, hnot, hsingle]
  · simp [hunits, decode, hhigh, hlow]

theorem decode_units (cs : List Char) : decode (cs.flatMap units) = cs := by
  induction cs with
  | nil => rfl
  | cons c cs ih => rw [List.flatMap_cons, decode_units_append, ih]

theorem decode?_units_append (c : Char) (us : List Nat) : decode? (units c ++ us) = (decode? us).map (c :: ·) := by
  rcases units_cases c with ⟨hunits, hplain⟩ | ⟨high, low, hunits, hhigh, hlow, rfl⟩
  · have hsingle : single? c.toNat = some c := by
      rw [single?, hplain, if_neg Bool.false_ne_true, Char.ofNat_toNat]
    rw [hunits]
    cases us with
    | nil => simp [decode?, hsingle]
    | cons v us =>
      have hnot : isHigh c.toNat = false := (Bool.or_eq_false_iff.mp hplain).1
      simp [decode?, hnot, hsingle]
  · simp [hunits, decode?, hhigh, hlow]

theorem decode?_units (cs : List Char) : decode? (cs.flatMap units) = some cs := by
  induction cs with
  | nil => rfl
  | cons c cs ih => rw [List.flatMap_cons, decode?_units_append, ih, Option.map_some]

end Utf16

end Gloss
