import Gloss.Proofs.Properties.LogicalLines
import Gloss.Text.LineIndex

namespace Gloss

def cut? : List Char → Nat → Option (List Char)
  | cs, 0 => some cs
  | [], _ + 1 => none
  | c :: cs, n + 1 => if c.utf8Size ≤ n + 1 then cut? cs (n + 1 - c.utf8Size) else none

theorem cut?_cons (c : Char) (cs : List Char) (n : Nat) : cut? (c :: cs) (c.utf8Size + n) = cut? cs n := by
  obtain ⟨m, hm⟩ : ∃ m, c.utf8Size + n = m + 1 :=
    Nat.exists_eq_succ_of_ne_zero (Nat.ne_of_gt (Nat.add_pos_left c.utf8Size_pos n))
  rw [hm, cut?, ← hm, if_pos (Nat.le_add_right _ _), Nat.add_sub_cancel_left]

theorem cut?_byteLength (front rest : List Char) : cut? (front ++ rest) (byteLength front) = some rest := by
  induction front with
  | nil => rw [List.nil_append, byteLength_nil, cut?]
  | cons c front ih => rw [List.cons_append, byteLength_cons, cut?_cons, ih]

theorem cut?_eq_some_iff {line rest : List Char} {offset : Nat} :
    cut? line offset = some rest ↔ ∃ front, line = front ++ rest ∧ byteLength front = offset := by
  constructor
  · intro h
    fun_induction cut? line offset with
    | case1 cs => exact ⟨[], Option.some.inj h, rfl⟩
    | case2 => cases h
    | case3 c cs n hc ih =>
      obtain ⟨front, rfl, hfront⟩ := ih h
      refine ⟨c :: front, rfl, ?_⟩
      rw [byteLength_cons, hfront, Nat.add_sub_cancel' hc]
    | case4 => cases h
  · rintro ⟨front, rfl, rfl⟩
    exact cut?_byteLength front rest

namespace Properties

structure IsLogical (line : List Char) : Prop where
  even : EndsEven line
  newline : '\n' ∉ line
  first : ∀ c ∈ line.head?, c ∉ blanks

theorem trim_first (line : List Char) : ∀ c ∈ (trim line).head?, c ∉ blanks := by
  intro c hc hblank
  have hhead := List.head?_dropWhile_not isBlank line
  rw [← trim, Option.mem_def.mp hc] at hhead
  dsimp only at hhead
  rw [(isBlank_iff c).mpr hblank] at hhead
  cases hhead

theorem first_append {front rest : List Char} (hfront : ∀ c ∈ front.head?, c ∉ blanks)
    (hrest : ∀ c ∈ rest.head?, c ∉ blanks) : ∀ c ∈ (front ++ rest).head?, c ∉ blanks := by
  cases front with
  | nil => exact hrest
  | cons c front => exact hfront

theorem first_dropLast {line : List Char} (h : ∀ c ∈ line.head?, c ∉ blanks) :
    ∀ c ∈ line.dropLast.head?, c ∉ blanks := by
  match line with
  | [] | [_] => rintro c ⟨⟩
  | _ :: _ :: _ => exact h

theorem isLogical_joinLine {pending : Option (List Char)} (hpending : ∀ left ∈ pending, IsLogical left)
    {line : List Char} (hline : '\n' ∉ line) :
    (∀ ended ∈ (joinLine pending line).1, IsLogical ended) ∧ ∀ left ∈ (joinLine pending line).2, IsLogical left := by
  have hnewline : '\n' ∉ pending.getD [] ++ trim line := by
    rw [List.mem_append, not_or]
    refine ⟨?_, fun hmem => hline ((List.dropWhile_suffix _).subset hmem)⟩
    cases pending with
    | none => exact List.not_mem_nil
    | some left => exact (hpending left rfl).newline
  have hfirst : ∀ c ∈ (pending.getD [] ++ trim line).head?, c ∉ blanks := by
    refine first_append ?_ (trim_first line)
    cases pending with
    | none => rintro c ⟨⟩
    | some left => exact (hpending left rfl).first
  unfold joinLine
  dsimp only
  split
  · exact ⟨List.forall_mem_nil _, by rintro left ⟨⟩⟩
  · split
    · next hgoes =>
      refine ⟨List.forall_mem_nil _, ?_⟩
      rintro left ⟨⟩
      exact ⟨goesOn_eq_false_iff.mp (goesOn_dropLast hgoes), fun hmem => hnewline ((List.dropLast_subset _) hmem),
        first_dropLast hfirst⟩
    · next hends =>
      refine ⟨List.forall_mem_singleton.mpr ?_, by rintro left ⟨⟩⟩
      exact ⟨goesOn_eq_false_iff.mp (Bool.not_eq_true _ ▸ hends), hnewline, hfirst⟩

theorem isLogical_join {pending : Option (List Char)} (hpending : ∀ left ∈ pending, IsLogical left)
    {lines : List (List Char)} (hlines : ∀ line ∈ lines, '\n' ∉ line) :
    ∀ line ∈ join pending lines, IsLogical line := by
  induction lines generalizing pending with
  | nil => simpa [join] using hpending
  | cons line lines ih =>
    obtain ⟨hline, hlines⟩ := List.forall_mem_cons.mp hlines
    obtain ⟨hended, hleft⟩ := isLogical_joinLine hpending hline
    rw [join_cons]
    exact List.forall_mem_append.mpr ⟨hended, ih hleft hlines⟩

theorem isLogical_logicalLines (text : List Char) : ∀ line ∈ logicalLines text, IsLogical line :=
  isLogical_join (by rintro left ⟨⟩) (newline_not_mem_physicalLines text)

/-- What must not be met as a line is split: a `\` with nothing behind it, and an offset within a character or
past the end. -/
inductive Fault
  | loneBackslash
  | offBoundary (offset : Nat)
  deriving DecidableEq, Repr

def cut (line : List Char) (offset : Nat) : Except Fault (List Char) :=
  match cut? line offset with
  | some rest => .ok rest
  | none => .error (.offBoundary offset)

def startPastBlank (line : List Char) (offset : Nat) : Except Fault Nat := do
  let tail ← cut line offset
  let stop := offset + (byteLength tail - byteLength (trim tail))
  match ← cut line stop with
  | [] => return stop
  | c :: _ => return if isSeparator c then stop + 1 else stop

def keyAndStart (line : List Char) (offset : Nat) : List Char → Except Fault (List Char × Nat)
  | [] => return ([], byteLength line)
  | ['\\'] => throw .loneBackslash
  | '\\' :: c :: cs => do
    let (key, start) ← keyAndStart line (offset + 1 + c.utf8Size) cs
    return (if isEscapable c then c :: key else '\\' :: c :: key, start)
  | c :: cs =>
    if isSeparator c then return ([], offset + 1)
    else if isBlank c then return ([], ← startPastBlank line (offset + c.utf8Size))
    else do
      let (key, start) ← keyAndStart line (offset + c.utf8Size) cs
      return (c :: key, start)

/-- `splitEntry` by byte offsets, with a fault where it would take a `\` alone for a key's character. -/
def splitAtOffset (line : List Char) : Except Fault (List Char × List Char) := do
  let (key, start) ← keyAndStart line 0 line
  let value ← cut line start
  return (key, trim value)

theorem cut_eq_ok_iff {line rest : List Char} {offset : Nat} :
    cut line offset = .ok rest ↔ ∃ front, line = front ++ rest ∧ byteLength front = offset := by
  rw [← cut?_eq_some_iff, cut]
  cases cut? line offset <;> simp

section

variable {line : List Char} {offset : Nat}

theorem cut_append (lead : List Char) {rest : List Char} (h : cut line offset = .ok (lead ++ rest)) :
    cut line (offset + byteLength lead) = .ok rest := by
  obtain ⟨front, hline, hfront⟩ := cut_eq_ok_iff.mp h
  apply cut_eq_ok_iff.mpr
  refine ⟨front ++ lead, ?_, ?_⟩
  · rw [hline, List.append_assoc]
  · rw [byteLength_append, hfront]

theorem cut_cons {c : Char} {rest : List Char} (h : cut line offset = .ok (c :: rest)) :
    cut line (offset + c.utf8Size) = .ok rest :=
  cut_append [c] h

theorem cut_separator {c : Char} {rest : List Char} (h : cut line offset = .ok (c :: rest))
    (hc : isSeparator c = true) : cut line (offset + 1) = .ok rest := by
  have hrest := cut_cons h
  cases List.mem_pair.mp ((isSeparator_iff c).mp hc) with
  | inl hc => rwa [hc] at hrest
  | inr hc => rwa [hc] at hrest

theorem cut_trim {rest : List Char} (h : cut line offset = .ok rest) :
    cut line (offset + (byteLength rest - byteLength (trim rest))) = .ok (trim rest) := by
  obtain ⟨lead, _, hrest⟩ := exists_lead rest
  have hlead : byteLength rest - byteLength (trim rest) = byteLength lead := by
    have hlength := congrArg byteLength hrest
    rw [byteLength_append] at hlength
    omega
  rw [hlead]
  exact cut_append lead (hrest ▸ h)

theorem startPastBlank_eq {rest : List Char} (h : cut line offset = .ok rest) : startPastBlank line offset =
    let stop := offset + (byteLength rest - byteLength (trim rest))
    match trim rest with
    | [] => .ok stop
    | c :: _ => .ok (if isSeparator c then stop + 1 else stop) := by
  rw [startPastBlank, h]
  dsimp only [bind, Except.bind]
  rw [cut_trim h]
  rfl

theorem exists_startPastBlank {rest : List Char} (h : cut line offset = .ok rest) : ∃ start value,
    startPastBlank line offset = .ok start ∧ cut line start = .ok value ∧ trim value = afterBlank rest := by
  have hcut := cut_trim h
  have htrim : trim (trim rest) = trim rest := trim_of_first (trim_first rest)
  rw [startPastBlank_eq h, afterBlank]
  cases hstopped : trim rest with
  | nil =>
    rw [hstopped] at hcut
    exact ⟨_, [], rfl, hcut, rfl⟩
  | cons c cs =>
    rw [hstopped] at hcut htrim
    dsimp only
    by_cases hc : isSeparator c = true
    · rw [if_pos hc, if_pos hc]
      exact ⟨_, cs, rfl, cut_separator hcut hc, rfl⟩
    · rw [if_neg hc, if_neg hc]
      exact ⟨_, c :: cs, rfl, hcut, htrim⟩

theorem goesOn_backslash (c : Char) (cs : List Char) : goesOn ('\\' :: c :: cs) = goesOn cs := by
  have hpair : goesOn ['\\', c] = false := by
    by_cases hc : c = '\\'
    · rw [hc]
      rfl
    · exact goesOn_of_last fun hlast => hc (Option.some.inj hlast)
  exact goesOn_append hpair cs

theorem goesOn_other {c : Char} (hc : c ≠ '\\') (cs : List Char) : goesOn (c :: cs) = goesOn cs := by
  have hsingle : goesOn [c] = false := goesOn_of_last fun hlast => hc (Option.some.inj hlast)
  exact goesOn_append hsingle cs

theorem keyAndStart_other {c : Char} (hc : c ≠ '\\') (cs : List Char) : keyAndStart line offset (c :: cs) =
    if isSeparator c then .ok ([], offset + 1)
    else if isBlank c then (startPastBlank line (offset + c.utf8Size)).map ([], ·)
    else (keyAndStart line (offset + c.utf8Size) cs).map fun found => (c :: found.1, found.2) := by
  rw [keyAndStart]
  · rfl
  · intro h
    exact absurd h hc
  · intro _ _ h
    exact absurd h hc

theorem exists_keyAndStart {rest : List Char} (h : cut line offset = .ok rest) (heven : goesOn rest = false) :
    ∃ start value, keyAndStart line offset rest = .ok ((splitEntry rest).1, start) ∧ cut line start = .ok value ∧
      trim value = (splitEntry rest).2 := by
  fun_induction splitEntry rest generalizing offset with
  | case1 =>
    refine ⟨byteLength line, [], rfl, ?_, rfl⟩
    exact cut_eq_ok_iff.mpr ⟨line, (List.append_nil line).symm, rfl⟩
  | case2 => cases heven
  | case3 c cs key value hsplit ih =>
    have hrest : cut line (offset + 1 + c.utf8Size) = .ok cs := cut_cons (cut_cons h)
    rw [goesOn_backslash] at heven
    obtain ⟨start, found, hkey, hfound, htrim⟩ := ih hrest heven
    rw [hsplit] at hkey htrim
    refine ⟨start, found, ?_, hfound, htrim⟩
    rw [keyAndStart, hkey]
    rfl
  | case4 c cs hlone hpair hseparator =>
    have hc : c ≠ '\\' := by rintro rfl; cases hseparator
    refine ⟨offset + 1, cs, ?_, cut_separator h hseparator, rfl⟩
    rw [keyAndStart_other hc, if_pos hseparator]
  | case5 c cs hlone hpair hseparator hblank =>
    have hc : c ≠ '\\' := by rintro rfl; cases hblank
    obtain ⟨start, found, hstart, hfound, htrim⟩ := exists_startPastBlank (cut_cons h)
    refine ⟨start, found, ?_, hfound, htrim⟩
    rw [keyAndStart_other hc, if_neg hseparator, if_pos hblank, hstart]
    rfl
  | case6 c cs hlone hpair hseparator hblank key value hsplit ih =>
    have hc : c ≠ '\\' := by
      rintro rfl
      cases cs with
      | nil => exact hlone rfl rfl
      | cons d cs => exact hpair d cs rfl rfl
    rw [goesOn_other hc] at heven
    obtain ⟨start, found, hkey, hfound, htrim⟩ := ih (cut_cons h) heven
    rw [hsplit] at hkey htrim
    refine ⟨start, found, ?_, hfound, htrim⟩
    rw [keyAndStart_other hc, if_neg hseparator, if_neg hblank, hkey]
    rfl

end

theorem splitAtOffset_eq {line : List Char} (h : goesOn line = false) : splitAtOffset line = .ok (splitEntry line) := by
  have hstart : cut line 0 = .ok line := cut_eq_ok_iff.mpr ⟨[], rfl, rfl⟩
  obtain ⟨start, value, hkey, hvalue, htrim⟩ := exists_keyAndStart hstart h
  rw [splitAtOffset, hkey]
  dsimp only [bind, Except.bind]
  rw [hvalue]
  change Except.ok ((splitEntry line).1, trim value) = _
  rw [htrim]

example : splitAtOffset ['k', '\\'] = .error .loneBackslash := rfl

/-- Each logical line ends in an even number of `\`, holds no line break and begins with no blank. While lines are
joined, each goes on or not by its own end. So a logical line is split without a fault: no `\` stands alone at its
end, and it is cut only between characters. -/
theorem logicalLines_well_formed (text : List Char) :
    (∀ before line after, physicalLines text = before ++ line :: after →
      let pending := (joinLines none before).2
      logicalLines text = (joinLines none before).1 ++ join pending (line :: after) ∧
        goesOn (pending.getD [] ++ trim line) = goesOn line) ∧
    ∀ line ∈ logicalLines text, IsLogical line ∧ splitAtOffset line = .ok (splitEntry line) := by
  constructor
  · intro before line after hlines pending
    refine ⟨?_, goesOn_joined (leftEven_joinLines before) line⟩
    rw [logicalLines, hlines, join_append]
  · intro line hline
    have hlogical := isLogical_logicalLines text line hline
    exact ⟨hlogical, splitAtOffset_eq (goesOn_eq_false_iff.mpr hlogical.even)⟩

def brokenLine : List Char := "ключ\\ 键 \\\n\\\n\t = 值\\\\".toList

theorem broken_line_well_formed :
    ∃ line, logicalLines brokenLine = [line] ∧ IsLogical line ∧
      splitAtOffset line = .ok ("ключ 键".toList, "值\\\\".toList) := by
  have hline : logicalLines brokenLine = ["ключ\\ 键 = 值\\\\".toList] := by decide +kernel
  obtain ⟨hlogical, hsplit⟩ := (logicalLines_well_formed brokenLine).2 _ (hline ▸ List.mem_singleton_self _)
  refine ⟨_, hline, hlogical, hsplit.trans ?_⟩
  decide +kernel

end Properties

end Gloss
