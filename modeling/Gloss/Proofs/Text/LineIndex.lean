import Gloss.Proofs.Text.Utf16
import Gloss.Text.LineIndex
import Mathlib

/-!
The position of a place in a text counts the line breaks before it and the UTF-16 units after the last of
them. The lines begin in ascending order, each between two characters, so halving finds the last line that
does not begin after an offset.
-/

namespace Gloss

theorem column_passed {before : List Char} {start offset : Nat} (h : start + byteLength before ≤ offset)
    (after : List Char) :
    column start offset (before ++ after) =
      (before.flatMap Utf16.units).length + column (start + byteLength before) offset after := by
  induction before generalizing start with
  | nil => simp
  | cons c cs ih =>
    have hpos := c.utf8Size_pos
    rw [byteLength_cons, ← Nat.add_assoc] at h ⊢
    have hlt : start < offset := by omega
    simp [column, hlt, ih h, Nat.add_assoc]

theorem column_of_le {start offset : Nat} (h : offset ≤ start) (text : List Char) : column start offset text = 0 := by
  cases text with
  | nil => rfl
  | cons c text => rw [column, if_neg (Nat.not_lt.mpr h)]

theorem column_append (before after : List Char) (start : Nat) :
    column start (start + byteLength before) (before ++ after) = (before.flatMap Utf16.units).length := by
  rw [column_passed (Nat.le_refl _), column_of_le (Nat.le_refl _), Nat.add_zero]

theorem column_add (start offset shift : Nat) (text : List Char) :
    column (start + shift) (offset + shift) text = column start offset text := by
  induction text generalizing start with
  | nil => rfl
  | cons c text ih =>
    rw [column, column, Nat.add_right_comm, ih]
    simp

def Line.shifted (shift : Nat) (l : Line) : Line := { l with start := l.start + shift }

namespace LineIndex

/-! ### Lines -/

def linesFrom (start : Nat) (text : List Char) : List Line := ⟨start, (split start text).1⟩ :: (split start text).2

theorem lines_ofText (text : List Char) : (ofText text).lines = (linesFrom 0 text).toArray := rfl

theorem linesFrom_newline (start : Nat) (text : List Char) :
    linesFrom start ('\n' :: text) = ⟨start, []⟩ :: linesFrom (start + 1) text := rfl

theorem linesFrom_char {c : Char} (h : c ≠ '\n') (start : Nat) (text : List Char) :
    ∃ first later, linesFrom (start + c.utf8Size) text = ⟨start + c.utf8Size, first⟩ :: later ∧
      linesFrom start (c :: text) = ⟨start, c :: first⟩ :: later := by
  refine ⟨_, _, rfl, ?_⟩
  rw [linesFrom, split]
  simp [h]

theorem linesFrom_append (start : Nat) (before after : List Char) :
    linesFrom start (before ++ '\n' :: after) =
      linesFrom start before ++ linesFrom (start + byteLength before + 1) after := by
  induction before generalizing start with
  | nil => rfl
  | cons c before ih =>
    by_cases hc : c = '\n'
    · subst hc
      rw [List.cons_append, linesFrom_newline, linesFrom_newline, ih, List.cons_append, byteLength_cons,
        show '\n'.utf8Size = 1 from rfl, Nat.add_assoc start 1]
    · obtain ⟨first, later, hbefore, hwhole⟩ := linesFrom_char hc start (before ++ '\n' :: after)
      obtain ⟨first', later', hbefore', hwhole'⟩ := linesFrom_char hc start before
      rw [ih, hbefore', List.cons_append, List.cons.injEq, Line.mk.injEq] at hbefore
      obtain ⟨⟨_, rfl⟩, hlater⟩ := hbefore
      rw [List.cons_append, hwhole, hwhole', byteLength_cons, ← Nat.add_assoc, ← hlater]
      rfl

theorem linesFrom_of_not_mem {line : List Char} (h : '\n' ∉ line) (start : Nat) (rest : List Char) :
    ∃ first later, linesFrom (start + byteLength line) rest = ⟨start + byteLength line, first⟩ :: later ∧
      linesFrom start (line ++ rest) = ⟨start, line ++ first⟩ :: later := by
  induction line generalizing start with
  | nil => exact ⟨_, _, rfl, rfl⟩
  | cons c line ih =>
    obtain ⟨hc, hline⟩ := not_or.mp (mt List.mem_cons.mpr h)
    obtain ⟨first, later, hrest, hwhole⟩ := ih hline (start + c.utf8Size)
    obtain ⟨first', later', hrest', hwhole'⟩ := linesFrom_char (Ne.symm hc) start (line ++ rest)
    rw [hwhole, List.cons.injEq, Line.mk.injEq] at hrest'
    obtain ⟨⟨_, rfl⟩, rfl⟩ := hrest'
    rw [byteLength_cons, ← Nat.add_assoc]
    exact ⟨first, later, hrest, hwhole'⟩

theorem length_linesFrom (start : Nat) (text : List Char) : (linesFrom start text).length = text.count '\n' + 1 := by
  induction text generalizing start with
  | nil => rfl
  | cons c text ih =>
    by_cases hc : c = '\n'
    · subst hc
      rw [linesFrom_newline, List.length_cons, ih, List.count_cons_self]
    · obtain ⟨first, later, hrest, hwhole⟩ := linesFrom_char hc start text
      rw [hwhole, List.count_cons_of_ne hc, ← ih (start + c.utf8Size), hrest]
      rfl

theorem exists_before_of_mem {start : Nat} {text : List Char} {l : Line} (h : l ∈ linesFrom start text) :
    ∃ before after, text = before ++ after ∧ l.start = start + byteLength before := by
  induction text generalizing start with
  | nil =>
    obtain rfl := List.mem_singleton.mp h
    exact ⟨[], [], rfl, rfl⟩
  | cons c text ih =>
    have hlater : l.start = start ∨ l ∈ linesFrom (start + c.utf8Size) text := by
      by_cases hc : c = '\n'
      · subst hc
        rcases List.mem_cons.mp h with rfl | hl
        · exact Or.inl rfl
        · exact Or.inr hl
      · obtain ⟨first, later, hrest, hwhole⟩ := linesFrom_char hc start text
        rw [hwhole] at h
        rcases List.mem_cons.mp h with rfl | hl
        · exact Or.inl rfl
        · exact Or.inr (hrest ▸ List.mem_cons_of_mem _ hl)
    rcases hlater with hl | hl
    · exact ⟨[], c :: text, rfl, hl⟩
    · obtain ⟨before, after, rfl, hstart⟩ := ih hl
      exact ⟨c :: before, after, rfl, by rw [hstart, byteLength_cons, Nat.add_assoc]⟩

theorem start_le_of_mem {start : Nat} {text : List Char} {l : Line} (h : l ∈ linesFrom start text) : start ≤ l.start := by
  obtain ⟨before, _, _, hstart⟩ := exists_before_of_mem h
  omega

theorem linesFrom_ascend (start : Nat) (text : List Char) :
    (linesFrom start text).Pairwise fun l m => l.start < m.start := by
  induction text generalizing start with
  | nil => exact List.pairwise_singleton _ _
  | cons c text ih =>
    have hrest := ih (start + c.utf8Size)
    have hpos := c.utf8Size_pos
    by_cases hc : c = '\n'
    · subst hc
      refine List.pairwise_cons.mpr ⟨fun l hl => ?_, hrest⟩
      have := start_le_of_mem hl
      exact this
    · obtain ⟨first, later, hlines, hwhole⟩ := linesFrom_char hc start text
      rw [hlines, List.pairwise_cons] at hrest
      rw [hwhole]
      refine List.pairwise_cons.mpr ⟨fun l hl => ?_, hrest.2⟩
      have := hrest.1 l hl
      dsimp only at this ⊢
      omega

theorem linesFrom_add (start shift : Nat) (text : List Char) :
    linesFrom (start + shift) text = (linesFrom start text).map (Line.shifted shift) := by
  induction text generalizing start with
  | nil => rfl
  | cons c text ih =>
    have hrest := ih (start + c.utf8Size)
    rw [Nat.add_right_comm] at hrest
    by_cases hc : c = '\n'
    · subst hc
      rw [linesFrom_newline, linesFrom_newline, List.map_cons]
      exact congrArg _ hrest
    · obtain ⟨first, later, hlines, hwhole⟩ := linesFrom_char hc start text
      obtain ⟨first', later', hlines', hwhole'⟩ := linesFrom_char hc (start + shift) text
      rw [hlines, hlines', List.map_cons, List.cons.injEq] at hrest
      obtain ⟨hfirst, hlater⟩ := hrest
      rw [hwhole, hwhole', List.map_cons, hlater, (Line.mk.inj hfirst).2]
      rfl

/-! ### Searching -/

def isReached (lines : Array Line) (offset i : Nat) : Bool := (lines[i]?.map (·.start)).any (· ≤ offset)

theorem search_eq {lines : Array Line} {offset line low high : Nat} (hlow : low ≤ line) (hhigh : line < high)
    (h : ∀ i < high, isReached lines offset i = decide (i ≤ line)) : search lines offset low high = line := by
  fun_induction search lines offset low high with
  | case1 low high hmore mid hmid ih =>
    have hline : mid ≤ line := by
      have := h mid (by omega)
      rw [isReached, hmid] at this
      simpa using this
    exact ih hline hhigh h
  | case2 low high hmore mid hmid ih =>
    have hline : line < mid := by
      have := h mid (by omega)
      rw [isReached, Bool.eq_false_iff.mpr hmid] at this
      simpa using this
    exact ih hlow hline fun i hi => h i (by omega)
  | case3 low high hmore => omega

structure LastReached (lines : List Line) (offset : Nat) (front : List Line) (l : Line) (back : List Line) : Prop where
  whole : lines = front ++ l :: back
  reached : l.start ≤ offset
  passed : ∀ m ∈ back, offset < m.start

theorem exists_lastReached {first : Line} {later : List Line} {offset : Nat} (hfirst : first.start ≤ offset)
    (hascend : (first :: later).Pairwise fun l m => l.start < m.start) :
    ∃ front l back, LastReached (first :: later) offset front l back := by
  induction later generalizing first with
  | nil => exact ⟨[], first, [], rfl, hfirst, List.forall_mem_nil _⟩
  | cons second later ih =>
    obtain ⟨_, hlater⟩ := List.pairwise_cons.mp hascend
    by_cases hsecond : second.start ≤ offset
    · obtain ⟨front, l, back, hwhole, hreached, hpassed⟩ := ih hsecond hlater
      exact ⟨first :: front, l, back, by rw [hwhole, List.cons_append], hreached, hpassed⟩
    · refine ⟨[], first, second :: later, rfl, hfirst, fun m hm => ?_⟩
      rcases List.mem_cons.mp hm with rfl | hm
      · omega
      · have := (List.pairwise_cons.mp hlater).1 m hm
        omega

namespace LastReached

variable {lines front back : List Line} {l : Line} {offset : Nat} (h : LastReached lines offset front l back)

include h

theorem front_reached (hascend : lines.Pairwise fun l m => l.start < m.start) : ∀ m ∈ front, m.start ≤ offset := by
  intro m hm
  rw [h.whole] at hascend
  have hlt := (List.pairwise_append.mp hascend).2.2 m hm l List.mem_cons_self
  have := h.reached
  omega

theorem isReached_eq (hascend : lines.Pairwise fun l m => l.start < m.start) (i : Nat) :
    isReached lines.toArray offset i = decide (i ≤ front.length) := by
  have hfront := h.front_reached hascend
  rw [isReached, List.getElem?_toArray, h.whole]
  rcases lt_trichotomy i front.length with hi | rfl | hi
  · rw [List.getElem?_append_left hi, List.getElem?_eq_getElem hi]
    simpa [hi.le] using hfront _ (List.getElem_mem hi)
  · simpa using h.reached
  · obtain ⟨k, rfl⟩ := Nat.exists_eq_add_of_lt hi
    have hindex : (front ++ l :: back)[front.length + k + 1]? = back[k]? := by
      rw [List.getElem?_append_right (by omega), show front.length + k + 1 - front.length = k + 1 by omega,
        List.getElem?_cons_succ]
    rw [hindex, decide_eq_false (by omega)]
    cases hk : back[k]? with
    | none => rfl
    | some m => simpa using h.passed m (List.mem_of_getElem? hk)

theorem countP_eq (hascend : lines.Pairwise fun l m => l.start < m.start) :
    lines.countP (·.start ≤ offset) = front.length + 1 := by
  have hfront : front.countP (·.start ≤ offset) = front.length :=
    List.countP_eq_length.mpr fun m hm => decide_eq_true (h.front_reached hascend m hm)
  have hback : back.countP (·.start ≤ offset) = 0 :=
    List.countP_eq_zero.mpr fun m hm => by simpa using h.passed m hm
  rw [h.whole, List.countP_append, hfront, List.countP_cons, hback]
  simp [h.reached]

end LastReached

theorem lineAt_eq {text : List Char} {offset : Nat} {front back : List Line} {l : Line}
    (h : LastReached (linesFrom 0 text) offset front l back) : (ofText text).lineAt offset = front.length := by
  have hsize : front.length < (linesFrom 0 text).length := by
    rw [h.whole, List.length_append, List.length_cons]
    omega
  exact search_eq (Nat.zero_le _) hsize fun i _ => h.isReached_eq (linesFrom_ascend 0 text) i

/-! ### Positions -/

theorem position_of_lastReached {text : List Char} {offset : Nat} {front back : List Line} {l : Line}
    (h : LastReached (linesFrom 0 text) (min offset (byteLength text)) front l back) :
    (ofText text).position offset = ⟨front.length, column l.start (min offset (byteLength text)) l.text⟩ := by
  have hline : (ofText text).lines[front.length]? = some l := by
    rw [lines_ofText, List.getElem?_toArray, h.whole, List.getElem?_append_right (Nat.le_refl _), Nat.sub_self,
      List.getElem?_cons_zero]
  simp only [position]
  rw [show (ofText text).size = byteLength text from rfl, lineAt_eq h, hline]

/-- The line of a place begins after the last line break before the place, and it is the line of every offset
from there to the place. -/
theorem lastReached_append {upper last : List Char} (hupper : ∀ c ∈ upper.getLast?, c = '\n')
    (hlast : '\n' ∉ last) (after : List Char) {offset : Nat} (hreached : byteLength upper ≤ offset)
    (hoffset : offset ≤ byteLength (upper ++ last)) :
    ∃ front first back, LastReached (linesFrom 0 (upper ++ last ++ after)) offset front
      ⟨byteLength upper, last ++ first⟩ back ∧ front.length = (upper ++ last).count '\n' := by
  obtain ⟨first, back, hrest, hline⟩ := linesFrom_of_not_mem hlast (byteLength upper) after
  have hpassed : ∀ m ∈ back, offset < m.start := by
    intro m hm
    have hascend := linesFrom_ascend (byteLength upper + byteLength last) after
    rw [hrest, ← byteLength_append] at hascend
    exact Nat.lt_of_le_of_lt hoffset ((List.pairwise_cons.mp hascend).1 m hm)
  have hcount : last.count '\n' = 0 := List.count_eq_zero.mpr hlast
  rcases List.eq_nil_or_concat' upper with rfl | ⟨above, c, rfl⟩
  · exact ⟨[], first, back, ⟨hline, hreached, hpassed⟩, by simpa using hcount.symm⟩
  · obtain rfl := hupper c (by simp)
    refine ⟨linesFrom 0 above, first, back, ⟨?_, hreached, hpassed⟩, ?_⟩
    · rw [List.append_assoc, List.append_assoc, List.singleton_append, linesFrom_append, ← hline]
      simp [show '\n'.utf8Size = 1 from rfl]
    · rw [length_linesFrom, List.count_append, List.count_append, hcount]
      rfl

theorem exists_upper (before : List Char) :
    ∃ upper, (∀ c ∈ upper.getLast?, c = '\n') ∧ before = upper ++ before.rtakeWhile (· ≠ '\n') := by
  refine ⟨before.rdropWhile (· ≠ '\n'), fun c hc => ?_, List.rdropWhile_append_rtakeWhile.symm⟩
  obtain ⟨hne, rfl⟩ := List.mem_getLast?_eq_getLast hc
  simpa using List.rdropWhile_last_not _ _ hne

theorem position_of_split {before after : List Char} {offset : Nat}
    (h : min offset (byteLength (before ++ after)) = byteLength before) :
    (ofText (before ++ after)).position offset =
      ⟨before.count '\n', ((before.rtakeWhile (· ≠ '\n')).flatMap Utf16.units).length⟩ := by
  obtain ⟨upper, hupper, hbefore⟩ := exists_upper before
  have hlast : '\n' ∉ before.rtakeWhile (· ≠ '\n') := fun hm => by simpa using List.mem_rtakeWhile_imp hm
  generalize before.rtakeWhile (· ≠ '\n') = last at hbefore hlast ⊢
  subst hbefore
  have hreached : byteLength upper ≤ byteLength (upper ++ last) := by
    rw [byteLength_append]
    exact Nat.le_add_right _ _
  obtain ⟨front, first, back, hfound, hcount⟩ := lastReached_append hupper hlast after hreached (Nat.le_refl _)
  have hcolumn := column_append last first (byteLength upper)
  rw [← byteLength_append] at hcolumn
  rw [← h] at hfound
  rw [position_of_lastReached hfound, hcount, h, hcolumn]

theorem position_of_not_mem {before : List Char} (h : '\n' ∉ before) (after : List Char) :
    (ofText (before ++ after)).position (byteLength before) = ⟨0, (before.flatMap Utf16.units).length⟩ := by
  have hsize : min (byteLength before) (byteLength (before ++ after)) = byteLength before := by
    rw [byteLength_append]
    omega
  have hline : before.rtakeWhile (· ≠ '\n') = before :=
    List.rtakeWhile_eq_self_iff.mpr fun c hc => decide_eq_true fun hbreak => h (hbreak ▸ hc)
  rw [position_of_split hsize, List.count_eq_zero.mpr h, hline]

theorem position_cons {c : Char} (h : c ≠ '\n') (text : List Char) (offset : Nat) :
    (ofText (c :: text)).position (offset + c.utf8Size) =
      if ((ofText text).position offset).line = 0 then
        ⟨0, ((ofText text).position offset).character + Utf16.width c⟩
      else (ofText text).position offset := by
  obtain ⟨front, l, back, hfound⟩ :=
    exists_lastReached (Nat.zero_le (min offset (byteLength text))) (linesFrom_ascend 0 text)
  obtain ⟨first, later, hlines, hwhole⟩ := linesFrom_char h 0 text
  rw [linesFrom_add, linesFrom, hfound.whole, List.map_append, List.map_cons] at hlines
  have hmin : min (offset + c.utf8Size) (byteLength (c :: text)) = min offset (byteLength text) + c.utf8Size := by
    rw [byteLength_cons]
    omega
  have hpassed : ∀ m ∈ back.map (Line.shifted c.utf8Size), min offset (byteLength text) + c.utf8Size < m.start := by
    rw [List.forall_mem_map]
    exact fun m hm => Nat.add_lt_add_right (hfound.passed m hm) _
  rw [position_of_lastReached hfound]
  cases front with
  | nil =>
    obtain ⟨hl, rfl⟩ := List.cons.inj hlines
    obtain rfl : l.text = first := congrArg Line.text hl
    have hstart : l.start = 0 := by simpa [Line.shifted] using congrArg Line.start hl
    have hnew : LastReached (linesFrom 0 (c :: text)) (min (offset + c.utf8Size) (byteLength (c :: text))) []
        ⟨0, c :: l.text⟩ (back.map (Line.shifted c.utf8Size)) := ⟨hwhole, Nat.zero_le _, by rwa [hmin]⟩
    have hcolumn := column_add 0 (min offset (byteLength text)) c.utf8Size l.text
    have hpos : 0 < min offset (byteLength text) + c.utf8Size := Nat.lt_of_lt_of_le c.utf8Size_pos (Nat.le_add_left _ _)
    rw [position_of_lastReached hnew, hmin, column, if_pos hpos, hcolumn, hstart]
    simp [Nat.add_comm]
  | cons f front =>
    obtain ⟨_, rfl⟩ := List.cons.inj hlines
    have hnew : LastReached (linesFrom 0 (c :: text)) (min (offset + c.utf8Size) (byteLength (c :: text)))
        (⟨0, c :: first⟩ :: front.map (Line.shifted c.utf8Size)) (l.shifted c.utf8Size)
        (back.map (Line.shifted c.utf8Size)) :=
      ⟨hwhole, by rw [hmin]; exact Nat.add_le_add_right hfound.reached _, by rwa [hmin]⟩
    rw [position_of_lastReached hnew, hmin, Line.shifted, column_add]
    simp

/-- What a search for an offset comes to: a line of the text that begins between two characters and not after
the offset. It is the one before the place where a line that begins after the offset would be put, and what
stands past the lines plays no part in it. -/
structure IsFound (text : String) (offset line : Nat) : Prop where
  within : ∃ l, (ofText text.toList).lines[line]? = some l ∧ l.start ≤ offset ∧ (⟨l.start⟩ : String.Pos.Raw).IsValid text
  counted : (ofText text.toList).lines.toList.countP (·.start ≤ offset) = line + 1
  alone : ∀ more, search ((ofText text.toList).lines ++ more) offset 0 (ofText text.toList).lines.size = line

theorem isFound (text : String) (offset : Nat) : IsFound text offset ((ofText text.toList).lineAt offset) := by
  have hascend := linesFrom_ascend 0 text.toList
  obtain ⟨front, l, back, hfound⟩ := exists_lastReached (Nat.zero_le offset) hascend
  have hlines : (ofText text.toList).lines = (front ++ l :: back).toArray := congrArg List.toArray hfound.whole
  rw [lineAt_eq hfound]
  refine ⟨⟨l, by simp [hlines], hfound.reached, ?_⟩, hfound.countP_eq hascend, fun more => ?_⟩
  · have hl : l ∈ linesFrom 0 text.toList := by
      rw [linesFrom, hfound.whole]
      exact List.mem_append_right _ List.mem_cons_self
    obtain ⟨before, after, htext, hstart⟩ := exists_before_of_mem hl
    exact isValid_iff_byteLength.mpr ⟨before, after, htext, by omega⟩
  · refine search_eq (Nat.zero_le _) (by simp [hlines]) fun i hi => ?_
    rw [isReached, Array.getElem?_append_left hi]
    exact hfound.isReached_eq hascend i

theorem exists_before_of_offset {text : String} {offset : Nat}
    (h : (⟨offset⟩ : String.Pos.Raw).IsValid text ∨ text.utf8ByteSize ≤ offset) :
    ∃ before after, text.toList = before ++ after ∧ byteLength before = min offset text.utf8ByteSize := by
  rcases h with hvalid | hpast
  · obtain ⟨before, after, htext, rfl⟩ := isValid_iff_byteLength.mp hvalid
    refine ⟨before, after, htext, (Nat.min_eq_left ?_).symm⟩
    rw [← byteLength_toList, htext, byteLength_append]
    exact Nat.le_add_right _ _
  · exact ⟨text.toList, [], (List.append_nil _).symm, by rw [byteLength_toList, Nat.min_eq_right hpast]⟩

/-- The position of an offset between characters, or past the end, which stands for the end. -/
theorem position_counts {text : String} {offset : Nat}
    (h : (⟨offset⟩ : String.Pos.Raw).IsValid text ∨ text.utf8ByteSize ≤ offset) :
    (∃ before after, text.toList = before ++ after ∧ byteLength before = min offset text.utf8ByteSize ∧
      (ofText text.toList).position offset =
        ⟨before.count '\n', ((before.rtakeWhile (· ≠ '\n')).flatMap Utf16.units).length⟩) ∧
      IsFound text (min offset text.utf8ByteSize) ((ofText text.toList).lineAt (min offset text.utf8ByteSize)) := by
  obtain ⟨before, after, htext, hbefore⟩ := exists_before_of_offset h
  refine ⟨⟨before, after, htext, hbefore, ?_⟩, isFound text _⟩
  rw [htext]
  refine position_of_split ?_
  rw [← htext, byteLength_toList, hbefore]

theorem position_after_pair : (⟨8⟩ : String.Pos.Raw).IsValid "é\n\n😀x" ∧
    (∃ before after, "é\n\n😀x".toList = before ++ after ∧ byteLength before = min 8 "é\n\n😀x".utf8ByteSize ∧
      (ofText "é\n\n😀x".toList).position 8 =
        ⟨before.count '\n', ((before.rtakeWhile (· ≠ '\n')).flatMap Utf16.units).length⟩) ∧
    (ofText "é\n\n😀x".toList).position 8 = ⟨2, 2⟩ := by
  have hvalid : (⟨8⟩ : String.Pos.Raw).IsValid "é\n\n😀x" :=
    isValid_iff_byteLength.mpr ⟨['é', '\n', '\n', '😀'], ['x'], by decide, by decide⟩
  exact ⟨hvalid, (position_counts (.inl hvalid)).1, by decide +kernel⟩

end LineIndex

end Gloss
