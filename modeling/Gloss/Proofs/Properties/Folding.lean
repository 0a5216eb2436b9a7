import Gloss.Proofs.Properties.LogicalLines

namespace Gloss.Properties

theorem isRemark_fold {front back : List Char} (h : isRemark (trim (front ++ back)) = false)
    (hback : ∀ c ∈ back.head?, c ∉ blanks) : isRemark (trim front ++ ['\\']) = false := by
  rw [trim_append_of_first front hback] at h
  cases htrim : trim front with
  | nil => rfl
  | cons c cs =>
    rw [htrim] at h
    exact h

theorem join_fold {pending : Option (List Char)} (hpending : LeftEven pending)
    {front back lead : List Char} (hfront : goesOn front = false) (hback : ∀ c ∈ back.head?, c ∉ blanks)
    (hlead : lead ⊆ blanks) (hremark : pending = none → isRemark (trim (front ++ back)) = false)
    (lines : List (List Char)) :
    join pending ((front ++ ['\\']) :: (lead ++ back) :: lines) = join pending ((front ++ back) :: lines) := by
  have hmark : trim (front ++ ['\\']) = trim front ++ ['\\'] := by
    refine trim_append_of_first front ?_
    rintro c ⟨⟩
    decide
  have hrest : trim (lead ++ back) = back := by rw [trim_append hlead, trim_of_first hback]
  have hwhole : trim (front ++ back) = trim front ++ back := trim_append_of_first front hback
  have hjoined : goesOn (pending.getD [] ++ (trim front ++ ['\\'])) = true := by
    rw [← hmark, goesOn_joined hpending, goesOn_concat, if_pos rfl, hfront]
    rfl
  have hopen : ∀ remark, (pending = none → remark = false) → (pending.isNone && remark) = false := by
    cases pending <;> simp
  have hfold : pending = none → isRemark (trim front ++ ['\\']) = false := fun hnone => isRemark_fold (hremark hnone) hback
  rw [join, hmark, hopen _ hfold, if_neg Bool.false_ne_true, if_pos hjoined, join, hrest]
  rw [join, hopen _ hremark, hwhole]
  simp

theorem physicalLines_fold {front : List Char} (h : '\n' ∉ front) (rest : List Char) :
    physicalLines (front ++ '\\' :: '\n' :: rest) = (front ++ ['\\']) :: physicalLines rest := by
  have hline : '\n' ∉ front ++ ['\\'] := by simp [h]
  have hlines := physicalLines_append hline rest
  rwa [List.append_assoc, List.singleton_append, chomp, if_neg (by simp)] at hlines

theorem follows_fold {front back lead after : List Char} (h : Follows (front ++ back) after) (hlead : lead ⊆ blanks) :
    Follows (lead ++ back) after := by
  refine h.of_last fun hlast => ?_
  rw [List.getLast?_append] at hlast ⊢
  cases hback : back.getLast? with
  | none =>
    rw [hback, Option.none_or] at hlast
    exact absurd (hlead (List.mem_of_getLast? hlast)) (by decide)
  | some c =>
    rw [hback] at hlast
    exact hlast

theorem logicalLines_fold {before front back lead after : List Char} (h : IsPhysical before (front ++ back) after)
    (hopen : Line (front ++ back) none → LeaveOpen (physicalLines before)) (hfront : EndsEven front)
    (hback : ∀ c ∈ back.head?, c ∉ blanks) (hlead : lead ⊆ blanks) :
    logicalLines (before ++ (front ++ '\\' :: '\n' :: (lead ++ back ++ after))) =
      logicalLines (before ++ (front ++ back ++ after)) := by
  obtain ⟨hfrontLine, hbackLine⟩ := not_or.mp (mt List.mem_append.mpr h.newline)
  have hpending := leftEven_joinLines (physicalLines before)
  have hremark : (joinLines none (physicalLines before)).2 = none → isRemark (trim (front ++ back)) = false := by
    intro hnone
    rw [← Bool.not_eq_true, isRemark_trim_iff h.newline]
    intro hline
    have hsome := (leaveOpen_iff (newline_not_mem_physicalLines before)).mp (hopen hline)
    rw [hnone] at hsome
    cases hsome
  have hbackNewline : '\n' ∉ lead ++ back := by
    rw [List.mem_append, not_or]
    exact ⟨not_mem_blanks (by decide) hlead, hbackLine⟩
  rw [h.logicalLines, logicalLines, h.before.physicalLines_append, join_append, physicalLines_fold hfrontLine, join_cons,
    (follows_fold h.after hlead).join hbackNewline (leftEven_joinLine _ _), ← join_cons,
    join_fold hpending (goesOn_eq_false_iff.mpr hfront) hback hlead hremark]

/-- A line may be folded after an even number of `\`, if the rest of it does not begin with a blank: the parts
read as the line did. -/
theorem parse_folded {before front back lead after : String}
    (h : IsPhysical before.toList (front ++ back).toList after.toList)
    (hopen : Line (front ++ back).toList none → LeaveOpen (physicalLines before.toList))
    (hfront : EndsEven front.toList) (hback : ∀ c ∈ back.toList.head?, c ∉ blanks) (hlead : lead.toList ⊆ blanks) :
    parse (before ++ (front ++ "\\\n" ++ lead ++ back) ++ after) = parse (before ++ (front ++ back) ++ after) := by
  rw [String.toList_append] at h hopen
  have hlines := logicalLines_fold h hopen hfront hback hlead
  simpa [parse] using congrArg (Dictionary.ofPairs ∘ entries) hlines

theorem continued_line_folded : IsPhysical "k\\\n".toList ("#\\\\" ++ "=v").toList "\r\nx".toList ∧
    Line ("#\\\\" ++ "=v").toList none ∧ LeaveOpen (physicalLines "k\\\n".toList) ∧ EndsEven "#\\\\".toList ∧
    parse ("k\\\n" ++ ("#\\\\" ++ "\\\n" ++ "\t" ++ "=v") ++ "\r\nx") = parse ("k\\\n" ++ ("#\\\\" ++ "=v") ++ "\r\nx") := by
  have hbefore : Ended "k\\\n".toList := by
    rintro c ⟨⟩
    rfl
  have hline : IsPhysical "k\\\n".toList ("#\\\\" ++ "=v").toList "\r\nx".toList := ⟨hbefore, by decide, .carriage⟩
  have hremark : Line ("#\\\\" ++ "=v").toList none := .remark (List.nil_subset _) (by decide) (by decide)
  have hkey : ¬ Line "k\\".toList none := (isRemark_trim_iff (by decide)).not.mp (by decide)
  have hopen : LeaveOpen ([] ++ ["k\\".toList]) := .first hkey (by decide)
  have heven : EndsEven "#\\\\".toList := by decide
  have hback : ∀ c ∈ "=v".toList.head?, c ∉ blanks := by
    rintro c ⟨⟩
    decide
  have hlead : "\t".toList ⊆ blanks := by simp [blanks]
  exact ⟨hline, hremark, hopen, heven, parse_folded hline (fun _ => hopen) heven hback hlead⟩

def lastLine (text : List Char) : List Char := text.rtakeWhile (· != '\n')

theorem newline_not_mem_lastLine (text : List Char) : '\n' ∉ lastLine text := fun h => by
  simpa using List.mem_rtakeWhile_imp h

theorem exists_before_lastLine (text : List Char) : ∃ before, Ended before ∧ text = before ++ lastLine text := by
  refine ⟨text.rdropWhile (· != '\n'), fun c hc => ?_, List.rdropWhile_append_rtakeWhile.symm⟩
  obtain ⟨hne, rfl⟩ := List.mem_getLast?_eq_getLast hc
  simpa using List.rdropWhile_last_not _ _ hne

theorem logicalLines_under {upper : List Char} (hend : upper.getLast? ≠ some '\r') (hlast : EndsEven (lastLine upper))
    (lower : List Char) : logicalLines (upper ++ '\n' :: lower) = logicalLines upper ++ logicalLines lower := by
  obtain ⟨before, hbefore, hupper⟩ := exists_before_lastLine upper
  have hnewline := newline_not_mem_lastLine upper
  have hbreak : (lastLine upper).getLast? ≠ some '\r' := by
    intro hcarriage
    rw [hupper, List.getLast?_append, hcarriage] at hend
    exact hend rfl
  have hclosed := joinLine_closed (leftEven_joinLines (physicalLines before)) (goesOn_eq_false_iff.mpr hlast)
  have hfollows : Follows (lastLine upper) ('\n' :: lower) := .newline hbreak
  have hwhole := IsPhysical.logicalLines ⟨hbefore, hnewline, hfollows⟩
  have halone := IsPhysical.logicalLines ⟨hbefore, hnewline, .nothing⟩
  rw [join_cons, hclosed] at hwhole halone
  rw [List.append_nil, ← hupper] at halone
  rw [← List.append_assoc, ← hupper] at hwhole
  have hrest : join none (linesAfter ('\n' :: lower)) = logicalLines lower := rfl
  have hnothing : join none (linesAfter []) = [] := rfl
  rw [hwhole, halone, hrest, hnothing, List.append_nil, List.append_assoc]

theorem entries_append (lines more : List (List Char)) : entries (lines ++ more) = entries lines ++ entries more := by
  simp [entries]

/-- Texts under each other are read one by one, and the values of the lower one win. -/
theorem parse_under {upper : String} (hend : upper.toList.getLast? ≠ some '\r') (hlast : EndsEven (lastLine upper.toList))
    (lower : String) : parse (upper ++ "\n" ++ lower) = (parse upper).overlay (parse lower) := by
  have hlines := logicalLines_under hend hlast lower.toList
  rw [parse, parse, parse, ← Dictionary.ofPairs_append, ← entries_append, ← hlines]
  simp

theorem open_line_above : "a=1\nb=2\\\n".toList.getLast? ≠ some '\r' ∧ EndsEven (lastLine "a=1\nb=2\\\n".toList) ∧
    parse ("a=1\nb=2\\\n" ++ "\n" ++ "a=3") = (parse "a=1\nb=2\\\n").overlay (parse "a=3") ∧
    ((parse "a=1\nb=2\\\n").overlay (parse "a=3"))["b"]? = some "2" := by
  have hend : "a=1\nb=2\\\n".toList.getLast? ≠ some '\r' := by decide
  have hlast : EndsEven (lastLine "a=1\nb=2\\\n".toList) := by decide
  refine ⟨hend, hlast, parse_under hend hlast "a=3", ?_⟩
  rw [Dictionary.getElem?_overlay, parse, parse, Dictionary.getElem?_ofPairs, Dictionary.getElem?_ofPairs]
  decide +kernel

end Gloss.Properties
