import Gloss.Proofs.Properties.Document
import Mathlib.Algebra.Group.Nat.Even
import Mathlib.Data.List.DropRight

/-!
Logical lines are read off the physical lines one by one. What is left open after some lines ends in an even
number of `\`, so that each line goes on or not by its own end.
-/

namespace Gloss.Properties

/-! ### Final backslashes -/

def EndsEven (line : List Char) : Prop := Even (line.rtakeWhile (· == '\\')).length

instance (line : List Char) : Decidable (EndsEven line) := inferInstanceAs (Decidable (Even _))

theorem goesOn_eq_false_iff {line : List Char} : goesOn line = false ↔ EndsEven line := by
  rw [goesOn, EndsEven, List.rtakeWhile, List.length_reverse, Nat.even_iff, beq_eq_false_iff_ne]
  omega

theorem goesOn_dropLast {line : List Char} (h : goesOn line = true) : goesOn line.dropLast = false := by
  rcases List.eq_nil_or_concat line with rfl | ⟨front, c, rfl⟩
  · cases h
  · rw [List.concat_eq_append, goesOn_concat] at h
    rw [List.concat_eq_append, List.dropLast_concat]
    split at h
    · simpa using h
    · cases h

theorem goesOn_blanks {lead : List Char} (h : lead ⊆ blanks) : goesOn lead = false :=
  goesOn_of_last fun hlast => absurd (h (List.mem_of_getLast? hlast)) (by decide)

/-! ### Blanks before a line -/

theorem exists_lead (line : List Char) : ∃ lead, lead ⊆ blanks ∧ line = lead ++ trim line := by
  refine ⟨line.takeWhile isBlank, fun c hc => ?_, (List.takeWhile_append_dropWhile).symm⟩
  exact (isBlank_iff c).mp (List.mem_takeWhile_imp hc)

theorem goesOn_trim (line : List Char) : goesOn (trim line) = goesOn line := by
  obtain ⟨lead, hlead, hline⟩ := exists_lead line
  conv_rhs => rw [hline, goesOn_append (goesOn_blanks hlead)]

theorem trim_append_of_first (line : List Char) {rest : List Char} (h : ∀ c ∈ rest.head?, c ∉ blanks) :
    trim (line ++ rest) = trim line ++ rest := by
  have hrest := trim_of_first h
  rw [trim] at hrest
  rw [trim, trim, List.dropWhile_append]
  split
  · next hnil => rw [hrest, List.isEmpty_iff.mp hnil, List.nil_append]
  · rfl

theorem isRemark_trim_iff {line : List Char} (h : '\n' ∉ line) : isRemark (trim line) = true ↔ Line line none := by
  constructor
  · intro hremark
    obtain ⟨lead, hlead, hline⟩ := exists_lead line
    cases htrim : trim line with
    | nil =>
      rw [hline, htrim, List.append_nil]
      exact .blank hlead
    | cons c text =>
      rw [htrim] at hremark hline
      have hc : c ∈ ['#', '!'] := by simpa [isRemark] using hremark
      rw [hline] at h ⊢
      exact .remark hlead hc fun hm => h (by simp [hm])
  · exact Line.isRemark

/-! ### One line after another -/

def joinLine (pending : Option (List Char)) (line : List Char) : List (List Char) × Option (List Char) :=
  if pending.isNone && isRemark (trim line) then ([], none)
  else
    let joined := pending.getD [] ++ trim line
    if goesOn joined then ([], some joined.dropLast) else ([joined], none)

def joinLines (pending : Option (List Char)) : List (List Char) → List (List Char) × Option (List Char)
  | [] => ([], pending)
  | line :: lines =>
    let (ended, left) := joinLine pending line
    let (others, last) := joinLines left lines
    (ended ++ others, last)

theorem join_cons (pending : Option (List Char)) (line : List Char) (lines : List (List Char)) :
    join pending (line :: lines) = (joinLine pending line).1 ++ join (joinLine pending line).2 lines := by
  simp only [join, joinLine]
  split
  · rfl
  · split <;> rfl

theorem join_append (pending : Option (List Char)) (lines more : List (List Char)) :
    join pending (lines ++ more) = (joinLines pending lines).1 ++ join (joinLines pending lines).2 more := by
  induction lines generalizing pending with
  | nil => rfl
  | cons line lines ih => rw [List.cons_append, join_cons, ih, joinLines, List.append_assoc]

theorem joinLines_concat (pending : Option (List Char)) (lines : List (List Char)) (line : List Char) :
    (joinLines pending (lines ++ [line])).2 = (joinLine (joinLines pending lines).2 line).2 := by
  induction lines generalizing pending with
  | nil => rfl
  | cons line lines ih => exact ih _

/-- A line that is left open has given up its last `\`, so that an even number of them ends it. -/
def LeftEven (pending : Option (List Char)) : Prop := ∀ left ∈ pending, goesOn left = false

theorem leftEven_joinLine (pending : Option (List Char)) (line : List Char) : LeftEven (joinLine pending line).2 := by
  rintro left hleft
  unfold joinLine at hleft
  split at hleft
  · cases hleft
  · dsimp only at hleft
    split at hleft
    · next hgoes =>
      obtain rfl := Option.some.inj hleft
      exact goesOn_dropLast hgoes
    · cases hleft

theorem leftEven_joinLines (lines : List (List Char)) : LeftEven (joinLines none lines).2 := by
  induction lines using List.reverseRecOn with
  | nil => rintro left ⟨⟩
  | append_singleton lines line =>
    rw [joinLines_concat]
    exact leftEven_joinLine _ line

theorem goesOn_joined {pending : Option (List Char)} (h : LeftEven pending) (line : List Char) :
    goesOn (pending.getD [] ++ trim line) = goesOn line := by
  rw [goesOn_append, goesOn_trim]
  cases pending with
  | none => rfl
  | some p => exact h p rfl

theorem joinLine_isSome_iff {pending : Option (List Char)} (h : LeftEven pending) (line : List Char) :
    (joinLine pending line).2.isSome = true ↔
      (pending.isSome = true ∨ isRemark (trim line) = false) ∧ goesOn line = true := by
  simp only [joinLine, goesOn_joined h]
  cases pending with
  | none => cases isRemark (trim line) <;> cases goesOn line <;> simp
  | some p => cases goesOn line <;> simp

theorem joinLine_closed {pending : Option (List Char)} (h : LeftEven pending) {line : List Char}
    (hline : goesOn line = false) : (joinLine pending line).2 = none := by
  rw [← Option.not_isSome_iff_eq_none, joinLine_isSome_iff h, hline]
  simp

/-- Physical lines after which a logical line is open: the last of them goes on, and it is not a blank line or a
remark, or else goes on with an open line. -/
inductive LeaveOpen : List (List Char) → Prop
  | first {lines line} : ¬ Line line none → ¬ EndsEven line → LeaveOpen (lines ++ [line])
  | further {lines line} : LeaveOpen lines → ¬ EndsEven line → LeaveOpen (lines ++ [line])

theorem leaveOpen_nil : ¬ LeaveOpen [] := by
  intro h
  generalize hnil : [] = lines at h
  cases h <;> simp at hnil

theorem leaveOpen_concat {lines : List (List Char)} {line : List Char} :
    LeaveOpen (lines ++ [line]) ↔ (LeaveOpen lines ∨ ¬ Line line none) ∧ ¬ EndsEven line := by
  constructor
  · intro h
    generalize hall : lines ++ [line] = all at h
    cases h with
    | first hline hodd =>
      obtain ⟨_, hlast⟩ := List.append_inj' hall rfl
      obtain rfl := List.singleton_inj.mp hlast
      exact ⟨.inr hline, hodd⟩
    | further hlines hodd =>
      obtain ⟨rfl, hlast⟩ := List.append_inj' hall rfl
      obtain rfl := List.singleton_inj.mp hlast
      exact ⟨.inl hlines, hodd⟩
  · rintro ⟨hlines | hline, hodd⟩
    · exact .further hlines hodd
    · exact .first hline hodd

theorem leaveOpen_iff {lines : List (List Char)} (h : ∀ line ∈ lines, '\n' ∉ line) :
    LeaveOpen lines ↔ (joinLines none lines).2.isSome = true := by
  -- the last line decides, so the induction is from the end
  induction lines using List.reverseRecOn with
  | nil => simp [leaveOpen_nil, joinLines]
  | append_singleton lines line ih =>
    obtain ⟨hlines, hline⟩ := List.forall_mem_append.mp h
    rw [leaveOpen_concat, ih hlines, joinLines_concat, joinLine_isSome_iff (leftEven_joinLines lines),
      ← goesOn_eq_false_iff, ← isRemark_trim_iff (hline line (by simp)), Bool.not_eq_true, Bool.not_eq_false]

/-! ### Physical lines -/

theorem newline_not_mem_physicalLines (text : List Char) : ∀ line ∈ physicalLines text, '\n' ∉ line := by
  fun_induction physicalLines text with
  | case1 => simp
  | case2 cs ih => simpa using ih
  | case3 cs ih => simpa using ih
  | case4 c cs hc _ _ _ => simpa using fun h => hc h.symm
  | case5 c cs hc _ line lines hlines ih =>
    rw [hlines] at ih
    obtain ⟨hline, hrest⟩ := List.forall_mem_cons.mp ih
    exact List.forall_mem_cons.mpr ⟨by simpa using ⟨fun h => hc h.symm, hline⟩, hrest⟩

theorem physicalLines_of_not_mem {line : List Char} (h : '\n' ∉ line) (hne : line ≠ []) :
    physicalLines line = [line] := by
  fun_induction physicalLines line with
  | case1 => exact absurd rfl hne
  | case2 => simp at h
  | case3 => simp at h
  | case4 c cs _ _ hnil ih =>
    cases cs with
    | nil => rfl
    | cons d cs =>
      rw [ih (fun hm => h (List.mem_cons_of_mem _ hm)) (List.cons_ne_nil _ _)] at hnil
      cases hnil
  | case5 c cs _ _ line lines hlines ih =>
    cases cs with
    | nil => cases hlines
    | cons d cs =>
      rw [ih (fun hm => h (List.mem_cons_of_mem _ hm)) (List.cons_ne_nil _ _)] at hlines
      obtain ⟨rfl, rfl⟩ := List.cons.inj hlines
      rfl

def Ended (text : List Char) : Prop := ∀ c ∈ text.getLast?, c = '\n'

theorem Ended.after {line after : List Char} (h : Ended (line ++ '\n' :: after)) : Ended after := by
  intro c hc
  refine h c ?_
  rw [List.getLast?_append, List.getLast?_cons, Option.mem_def.mp hc]
  rfl

theorem Ended.physicalLines_append {front : List Char} (h : Ended front) (rest : List Char) :
    physicalLines (front ++ rest) = physicalLines front ++ physicalLines rest := by
  -- the first break in `front` ends a line of both texts
  by_cases hmem : '\n' ∈ front
  · obtain ⟨line, after, hfront, hline⟩ := List.eq_append_cons_of_mem hmem
    rw [hfront] at h
    have ih := h.after.physicalLines_append rest
    rw [hfront, List.append_assoc, List.cons_append, Properties.physicalLines_append hline,
      Properties.physicalLines_append hline, ih, List.cons_append]
  · obtain rfl : front = [] := by
      by_contra hne
      have hlast := h _ (List.getLast?_eq_some_getLast hne)
      exact hmem (hlast ▸ List.getLast_mem hne)
    rfl
termination_by front.length
decreasing_by
  rw [hfront, List.length_append, List.length_cons]
  omega

inductive Follows : (line rest : List Char) → Prop
  | nothing {line} : Follows line []
  | newline {line back} : line.getLast? ≠ some '\r' → Follows line ('\n' :: back)
  | carriage {line back} : Follows line ('\r' :: '\n' :: back)

theorem Follows.of_last {line other rest : List Char} (h : Follows line rest)
    (hlast : other.getLast? = some '\r' → line.getLast? = some '\r') : Follows other rest := by
  cases h with
  | nothing => exact .nothing
  | newline hline => exact .newline fun hother => hline (hlast hother)
  | carriage => exact .carriage

structure IsPhysical (front line rest : List Char) : Prop where
  before : Ended front
  newline : '\n' ∉ line
  after : Follows line rest

def linesAfter (rest : List Char) : List (List Char) := physicalLines (rest.dropWhile (· != '\n')).tail

theorem join_nothing {pending : Option (List Char)} (h : LeftEven pending) :
    join pending [] = join pending [[]] := by
  cases pending with
  | none => rfl
  | some p => simp [join, trim, h p rfl]

theorem Follows.join {line rest : List Char} (h : Follows line rest) (hline : '\n' ∉ line)
    {pending : Option (List Char)} (hpending : LeftEven pending) :
    join pending (physicalLines (line ++ rest)) = join pending (line :: linesAfter rest) := by
  cases h with
  | nothing =>
    rw [List.append_nil]
    by_cases hne : line = []
    · subst hne
      exact join_nothing hpending
    · rw [physicalLines_of_not_mem hline hne]
      rfl
  | newline hlast =>
    rw [physicalLines_append hline, chomp, if_neg hlast]
    rfl
  | @carriage back =>
    have hcarriage : '\n' ∉ line ++ ['\r'] := by simp [hline]
    have hlines := physicalLines_append hcarriage back
    rw [List.append_assoc, List.singleton_append, chomp_concat] at hlines
    rw [hlines]
    rfl

theorem IsPhysical.logicalLines {front line rest : List Char} (h : IsPhysical front line rest) :
    logicalLines (front ++ (line ++ rest)) = (joinLines none (physicalLines front)).1 ++
      join (joinLines none (physicalLines front)).2 (line :: linesAfter rest) := by
  rw [Properties.logicalLines, h.before.physicalLines_append, join_append, h.after.join h.newline (leftEven_joinLines _)]

end Gloss.Properties
