import Gloss.Proofs.Text.LineIndex
import Mathlib

namespace Gloss

structure Inside (text : List Char) (offset : Nat) (before : List Char) (c : Char) (after : List Char) : Prop where
  whole : text = before ++ c :: after
  begun : byteLength before < offset
  unended : offset < byteLength before + c.utf8Size

/-- An offset up to the end of a text is between two characters or inside one. -/
theorem between_or_inside {text : List Char} {offset : Nat} (h : offset ≤ byteLength text) :
    (∃ before after, text = before ++ after ∧ offset = byteLength before) ∨
      ∃ before c after, Inside text offset before c after := by
  induction text generalizing offset with
  | nil => exact .inl ⟨[], [], rfl, Nat.le_zero.mp h⟩
  | cons c text ih =>
    rw [byteLength_cons] at h
    rcases Nat.eq_zero_or_pos offset with rfl | hpos
    · exact .inl ⟨[], c :: text, rfl, rfl⟩
    rcases Nat.lt_or_ge offset c.utf8Size with hlt | hge
    · exact .inr ⟨[], c, text, rfl, hpos, by rwa [byteLength_nil, Nat.zero_add]⟩
    · obtain ⟨shift, rfl⟩ := Nat.exists_eq_add_of_le hge
      rcases ih (Nat.le_of_add_le_add_left h) with ⟨before, after, rfl, rfl⟩ | ⟨before, d, after, rfl, hbegun, hunended⟩
      · exact .inl ⟨c :: before, after, rfl, rfl⟩
      · refine .inr ⟨c :: before, d, after, rfl, ?_, ?_⟩
        · rw [byteLength_cons]
          omega
        · rw [byteLength_cons]
          omega

theorem le_or_le_of_split {before after front back : List Char} {c : Char}
    (h : before ++ c :: after = front ++ back) :
    byteLength front ≤ byteLength before ∨ byteLength before + c.utf8Size ≤ byteLength front := by
  rcases List.append_eq_append_iff.mp h with ⟨more, rfl, hmore⟩ | ⟨more, rfl, _⟩
  · rcases more with _ | ⟨d, more⟩
    · exact .inl (by rw [List.append_nil])
    · obtain ⟨rfl, _⟩ := List.cons.inj hmore
      exact .inr (by rw [byteLength_append, byteLength_cons]; omega)
  · exact .inl (by rw [byteLength_append]; omega)

namespace Inside

variable {text : String} {offset : Nat} {before after : List Char} {c : Char}
  (h : Inside text.toList offset before c after)

include h

theorem ne_newline : c ≠ '\n' := by
  rintro rfl
  have := h.begun
  have := h.unended
  have : '\n'.utf8Size = 1 := rfl
  omega

theorem start_valid : (⟨byteLength before⟩ : String.Pos.Raw).IsValid text :=
  isValid_iff_byteLength.mpr ⟨before, c :: after, h.whole, rfl⟩

theorem stop_valid : (⟨byteLength before + c.utf8Size⟩ : String.Pos.Raw).IsValid text :=
  isValid_iff_byteLength.mpr ⟨before ++ [c], after, by simp [h.whole], by simp⟩

theorem le_or_le {place : Nat} (hplace : (⟨place⟩ : String.Pos.Raw).IsValid text) :
    place ≤ byteLength before ∨ byteLength before + c.utf8Size ≤ place := by
  obtain ⟨front, back, htext, rfl⟩ := isValid_iff_byteLength.mp hplace
  exact le_or_le_of_split (h.whole.symm.trans htext)

theorem not_valid : ¬ (⟨offset⟩ : String.Pos.Raw).IsValid text := by
  intro hvalid
  rcases h.le_or_le hvalid with hle | hle
  · exact Nat.not_lt.mpr hle h.begun
  · exact Nat.not_lt.mpr hle h.unended

theorem posLE_eq : text.posLE ⟨offset⟩ = ⟨⟨byteLength before⟩, h.start_valid⟩ := by
  refine String.posLE_eq_iff.mpr ⟨Nat.le_of_lt h.begun, fun place hplace => ?_⟩
  rcases h.le_or_le place.isValid with hle | hle
  · exact hle
  · exact absurd (Nat.lt_of_lt_of_le h.unended hle) (Nat.not_lt.mpr hplace)

theorem posGE_eq (hoffset : (⟨offset⟩ : String.Pos.Raw) ≤ text.rawEndPos) :
    text.posGE ⟨offset⟩ hoffset = ⟨⟨byteLength before + c.utf8Size⟩, h.stop_valid⟩ := by
  refine String.posGE_eq_iff.mpr ⟨Nat.le_of_lt h.unended, fun place hplace => ?_⟩
  rcases h.le_or_le place.isValid with hle | hle
  · exact absurd (Nat.lt_of_le_of_lt hle h.begun) (Nat.not_lt.mpr hplace)
  · exact hle

end Inside

namespace LineIndex

theorem position_of_begun {before after : List Char} {c : Char} {offset : Nat} (hc : c ≠ '\n')
    (hbegun : byteLength before < offset) (hunended : offset ≤ byteLength before + c.utf8Size) :
    (ofText (before ++ c :: after)).position offset =
      ⟨before.count '\n', ((before.rtakeWhile (· ≠ '\n')).flatMap Utf16.units).length + Utf16.width c⟩ := by
  obtain ⟨upper, hupper, hbefore⟩ := exists_upper before
  have hlast : '\n' ∉ before.rtakeWhile (· ≠ '\n') ++ [c] := by
    rw [List.mem_append, List.mem_singleton, not_or]
    exact ⟨fun hm => by simpa using List.mem_rtakeWhile_imp hm, hc.symm⟩
  generalize before.rtakeWhile (· ≠ '\n') = last at hbefore hlast ⊢
  subst hbefore
  have hstop : offset ≤ byteLength (upper ++ (last ++ [c])) := by simpa [Nat.add_assoc] using hunended
  rw [byteLength_append] at hbegun hunended
  have hreached : byteLength upper ≤ offset := by omega
  -- the line goes on up to the end of the character
  obtain ⟨front, first, back, hfound, hcount⟩ := lastReached_append hupper hlast after hreached hstop
  have htext : upper ++ (last ++ [c]) ++ after = upper ++ last ++ c :: after := by simp
  have hsize : min offset (byteLength (upper ++ last ++ c :: after)) = offset := by
    rw [← htext, byteLength_append]
    omega
  have hcolumn : column (byteLength upper) offset (last ++ [c] ++ first) =
      (last.flatMap Utf16.units).length + Utf16.width c := by
    rw [List.append_assoc, column_passed (Nat.le_of_lt hbegun), List.singleton_append, column, if_pos hbegun,
      column_of_le hunended, Nat.add_zero]
  rw [htext, ← hsize] at hfound
  rw [position_of_lastReached hfound, hsize, hcount, hcolumn]
  simp [hc]

section

variable {text : String} {offset : Nat} {before after : List Char} {c : Char}
  (h : Inside text.toList offset before c after)

include h

theorem position_of_start : (ofText text.toList).position (byteLength before) =
    ⟨before.count '\n', ((before.rtakeWhile (· ≠ '\n')).flatMap Utf16.units).length⟩ := by
  rw [h.whole]
  refine position_of_split (Nat.min_eq_left ?_)
  rw [byteLength_append]
  exact Nat.le_add_right _ _

theorem position_of_inside : (ofText text.toList).position offset =
    ⟨before.count '\n', ((before.rtakeWhile (· ≠ '\n')).flatMap Utf16.units).length + Utf16.width c⟩ := by
  rw [h.whole]
  exact position_of_begun h.ne_newline h.begun (Nat.le_of_lt h.unended)

theorem position_eq_stop :
    (ofText text.toList).position offset = (ofText text.toList).position (byteLength before + c.utf8Size) := by
  rw [position_of_inside h, h.whole]
  exact (position_of_begun h.ne_newline (Nat.lt_add_of_pos_right c.utf8Size_pos) (Nat.le_refl _)).symm

theorem position_ne_start : (ofText text.toList).position offset ≠ (ofText text.toList).position (byteLength before) := by
  rw [position_of_inside h, position_of_start h]
  intro heq
  have := Utf16.width_pos c
  have := congrArg Position.character heq
  dsimp only at this
  omega

end

/-- An offset has the position of the first place between characters that is not before it. It has that of the
last place not after it only when it is itself such a place: an offset within a character counts the character. -/
theorem position_rounds_up {text : String} {offset : Nat} (h : (⟨offset⟩ : String.Pos.Raw) ≤ text.rawEndPos) :
    (ofText text.toList).position offset = (ofText text.toList).position (text.posGE ⟨offset⟩ h).offset.byteIdx ∧
      ((ofText text.toList).position offset = (ofText text.toList).position (text.posLE ⟨offset⟩).offset.byteIdx ↔
        (⟨offset⟩ : String.Pos.Raw).IsValid text) ∧
      ∀ before c after, Inside text.toList offset before c after →
        (text.posLE ⟨offset⟩).offset.byteIdx = byteLength before ∧
        (ofText text.toList).position (byteLength before) =
          ⟨before.count '\n', ((before.rtakeWhile (· ≠ '\n')).flatMap Utf16.units).length⟩ ∧
        (ofText text.toList).position offset =
          ⟨before.count '\n', ((before.rtakeWhile (· ≠ '\n')).flatMap Utf16.units).length + Utf16.width c⟩ := by
  have hsize : offset ≤ byteLength text.toList := by
    rw [byteLength_toList]
    exact h
  rw [← and_assoc]
  -- the places around an offset are the offset itself, or the ends of the character that it is inside
  refine ⟨?_, fun before c after hin => ⟨?_, position_of_start hin, position_of_inside hin⟩⟩
  · rcases between_or_inside hsize with ⟨before, after, htext, hoffset⟩ | ⟨before, c, after, hin⟩
    · have hvalid := isValid_iff_byteLength.mpr ⟨before, after, htext, hoffset⟩
      rw [String.offset_posGE_eq_self_iff.mpr hvalid, String.offset_posLE_eq_self_iff.mpr hvalid]
      exact ⟨rfl, iff_of_true rfl hvalid⟩
    · rw [hin.posGE_eq h, hin.posLE_eq]
      exact ⟨position_eq_stop hin, iff_of_false (position_ne_start hin) hin.not_valid⟩
  · rw [hin.posLE_eq]

theorem position_within_pair :
    (⟨8⟩ : String.Pos.Raw) ≤ "é\n你😀x".rawEndPos ∧ Inside "é\n你😀x".toList 8 ['é', '\n', '你'] '😀' ['x'] ∧
      ¬ (⟨8⟩ : String.Pos.Raw).IsValid "é\n你😀x" ∧
      (ofText "é\n你😀x".toList).position ("é\n你😀x".posLE ⟨8⟩).offset.byteIdx = ⟨1, 1⟩ ∧
      (ofText "é\n你😀x".toList).position 8 = ⟨1, 3⟩ := by
  have hsize : (⟨8⟩ : String.Pos.Raw) ≤ "é\n你😀x".rawEndPos := by decide
  have hin : Inside "é\n你😀x".toList 8 ['é', '\n', '你'] '😀' ['x'] := ⟨by decide, by decide, by decide⟩
  obtain ⟨hplace, hstart, hoffset⟩ := (position_rounds_up hsize).2.2 _ _ _ hin
  refine ⟨hsize, hin, hin.not_valid, ?_, ?_⟩
  · rw [hplace, hstart]
    decide
  · rw [hoffset]
    decide

/-- The second byte of a text of one character has the position behind the character, not that of its start. -/
theorem second_byte_passes_character :
    Inside "é".toList 1 [] 'é' [] ∧ (ofText "é".toList).position 1 = ⟨0, 1⟩ ∧
      (ofText "é".toList).position (byteLength []) = ⟨0, 0⟩ :=
  ⟨⟨by decide, by decide, by decide⟩, by decide +kernel, by decide +kernel⟩

end LineIndex

end Gloss
