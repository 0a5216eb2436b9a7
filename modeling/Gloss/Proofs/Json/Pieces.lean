import Gloss.Proofs.Json.Grammar
import Mathlib.Data.List.TakeWhile

namespace Gloss.Json

open Grammar

namespace Text

theorem bind_eq_ok {ε α β : Type} {found : Except ε α} {next : α → Except ε β} {y : β} :
    found >>= next = .ok y ↔ ∃ x, found = .ok x ∧ next x = .ok y := by
  cases found <;> simp [Bind.bind, Except.bind]

variable {offset n : Nat} {cs rest : List Char}

theorem unit_ok {u : Nat} (h : unit offset cs = .ok u) :
    ∃ ds after, cs = ds ++ after ∧ ds.length = 4 ∧ Escape.hexValue? ds = some u := by
  unfold unit at h
  split at h
  · next v a b c d after hvalue =>
    obtain rfl := Except.ok.inj h
    exact ⟨[a, b, c, d], after, rfl, rfl, hvalue⟩
  · cases h

theorem lowUnit_ok {v : Nat} (h : lowUnit offset cs = .ok v) : ∃ es after, cs = '\\' :: 'u' :: (es ++ after) ∧
    es.length = 4 ∧ Escape.hexValue? es = some v ∧ Utf16.isLow v = true := by
  unfold lowUnit at h
  split at h
  · obtain ⟨w, hunit, hlow⟩ := bind_eq_ok.mp h
    obtain ⟨es, after, rfl, hlength, hvalue⟩ := unit_ok hunit
    split_ifs at hlow with hw
    obtain rfl := Except.ok.inj hlow
    exact ⟨es, after, rfl, hlength, hvalue, hw⟩
  all_goals cases h

theorem named_of_lookup {c d : Char} (h : named.lookup c = some d) : (c, d) ∈ named := by
  obtain ⟨before, after, hnamed, _⟩ := List.lookup_eq_some_iff.mp h
  exact hnamed ▸ List.mem_append_right before List.mem_cons_self

theorem spells_of_escape {s : List Char} {d : Char} (h : escape offset cs = .ok (d, n))
    (hs : Spells (cs.drop n) s rest) : Spells ('\\' :: cs) (d :: s) rest := by
  unfold escape at h
  split at h
  · cases h
  · obtain ⟨u, hunit, hu⟩ := bind_eq_ok.mp h
    obtain ⟨ds, after, rfl, hlength, hvalue⟩ := unit_ok hunit
    split_ifs at hu with hlow hhigh
    · obtain ⟨v, hsecond, hpair⟩ := bind_eq_ok.mp hu
      rw [List.drop_left' hlength] at hsecond
      obtain ⟨es, after', rfl, hlength', hvalue', hlow'⟩ := lowUnit_ok hsecond
      obtain ⟨rfl, rfl⟩ := Prod.mk.inj (Except.ok.inj hpair)
      refine .pair hlength hvalue hhigh hlength' hvalue' hlow' ?_
      simpa [List.drop_append, List.drop_eq_nil_of_le, hlength, hlength'] using hs
    · cases hu
      refine .unit hlength hvalue (by simp [Utf16.isSurrogate, hlow, hhigh]) ?_
      simpa [List.drop_append, hlength] using hs
  · split at h
    · next hnamed =>
      cases h
      exact .named (named_of_lookup hnamed) hs
    · cases h

theorem quoted_of_passEscape (h : passEscape offset cs = .ok n) (hs : Quoted (cs.drop n) rest) :
    Quoted ('\\' :: cs) rest := by
  unfold passEscape at h
  split at h
  · cases h
  · obtain ⟨u, hunit, hu⟩ := bind_eq_ok.mp h
    obtain ⟨ds, after, rfl, hlength, hvalue⟩ := unit_ok hunit
    cases hu
    refine .unit hlength hvalue ?_
    simpa [List.drop_append, hlength] using hs
  · split_ifs at h with hnamed
    obtain ⟨d, hd⟩ := Option.isSome_iff_exists.mp hnamed
    cases h
    exact .named (named_of_lookup hd) hs

theorem spells_of_read {s : List Char} {stop : Cursor} (h : read n offset cs = .ok (s, stop)) :
    Spells (cs.drop n) s stop.rest := by
  induction cs generalizing n offset s with
  | nil => cases h
  | cons c cs ih =>
    cases n with
    | succ n => exact ih h
    | zero =>
      simp only [read] at h
      split_ifs at h with hquote hslash hlow
      · cases h
        exact hquote ▸ .close
      · obtain ⟨⟨d, m⟩, hescape, hd⟩ := bind_eq_ok.mp h
        obtain ⟨⟨ds, stop'⟩, hread, hds⟩ := bind_eq_ok.mp hd
        cases hds
        exact hslash ▸ spells_of_escape hescape (ih hread)
      · obtain ⟨⟨ds, stop'⟩, hread, hds⟩ := bind_eq_ok.mp h
        cases hds
        exact .itself hquote hslash hlow (ih hread)

theorem quoted_of_pass {stop : Cursor} (h : pass n offset cs = .ok stop) : Quoted (cs.drop n) stop.rest := by
  induction cs generalizing n offset with
  | nil => cases h
  | cons c cs ih =>
    cases n with
    | succ n => exact ih h
    | zero =>
      simp only [pass] at h
      split_ifs at h with hquote hslash hlow
      · cases h
        exact hquote ▸ .close
      · obtain ⟨m, hescape, hpass⟩ := bind_eq_ok.mp h
        exact hslash ▸ quoted_of_passEscape hescape (ih hpass)
      · exact .itself hquote hslash hlow (ih h)

end Text

namespace Reader

variable {α β : Type} {c c' c'' : Cursor} {nothing : Unit}

theorem bind_eq_ok {reader : Reader α} {next : α → Reader β} {y : β} : (reader >>= next) c = .ok (y, c'') ↔
    ∃ x c', reader c = .ok (x, c') ∧ next x c' = .ok (y, c'') := by
  refine Text.bind_eq_ok.trans ⟨?_, ?_⟩
  · rintro ⟨⟨x, c'⟩, hx, hy⟩
    exact ⟨x, c', hx, hy⟩
  · rintro ⟨x, c', hx, hy⟩
    exact ⟨(x, c'), hx, hy⟩

theorem bind_of_ok {reader : Reader α} {x : α} (h : reader c = .ok (x, c')) (next : α → Reader β) :
    (reader >>= next) c = next x c' := by
  simp [Bind.bind, StateT.bind, Except.bind, h]

theorem bind_of_error {reader : Reader α} {fault : Fault} (h : reader c = .error fault) (next : α → Reader β) :
    (reader >>= next) c = .error fault := by
  simp [Bind.bind, StateT.bind, Except.bind, h]

theorem bind_congr {reader reader' : Reader α} {next next' : α → Reader β} (h : reader c = reader' c)
    (hnext : ∀ x c', reader c = .ok (x, c') → next x c' = next' x c') :
    (reader >>= next) c = (reader' >>= next') c := by
  cases hread : reader c with
  | error fault => rw [bind_of_error hread, bind_of_error (h ▸ hread)]
  | ok found => rw [bind_of_ok hread, bind_of_ok (h ▸ hread), hnext _ _ hread]

theorem pure_ok {x y : α} (h : (pure x : Reader α) c = .ok (y, c')) : y = x ∧ c' = c := by
  cases h
  exact ⟨rfl, rfl⟩

theorem peek_ok {next : Option Char} (h : peek c = .ok (next, c')) : next = c.rest.head? ∧ c' = c := by
  cases h
  exact ⟨rfl, rfl⟩

theorem skip_ok {d : Char} (h : skip c = .ok (nothing, c')) (hd : some d = c.rest.head?) :
    c.rest = d :: c'.rest := by
  obtain ⟨offset, cs⟩ := c
  cases cs with
  | nil => cases hd
  | cons e cs =>
    cases hd
    cases h
    rfl

theorem blanks_ok {next : Option Char} (h : blanks c = .ok (next, c')) :
    Blanks c.rest c'.rest ∧ next = c'.rest.head? := by
  cases h
  refine ⟨⟨c.rest.takeWhile isBlank, ?_, fun d => List.mem_takeWhile_imp⟩, rfl⟩
  exact List.takeWhile_append_dropWhile.symm

theorem blanks_run {cs rest : List Char} (h : Blanks cs rest) (hrest : ∀ d, rest.head? = some d → isBlank d = false)
    (offset : Nat) : blanks ⟨offset, cs⟩ = .ok (rest.head?, ⟨offset + (cs.length - rest.length), rest⟩) := by
  obtain ⟨before, rfl, hbefore⟩ := h
  have hnone : rest.takeWhile isBlank = [] ∧ rest.dropWhile isBlank = rest := by
    cases rest with
    | nil => exact ⟨rfl, rfl⟩
    | cons d rest => simp [hrest d rfl]
  have htake : (before ++ rest).takeWhile isBlank = before := by
    rw [List.takeWhile_append_of_pos hbefore, hnone.1, List.append_nil]
  have hdrop : (before ++ rest).dropWhile isBlank = rest := by
    rw [List.dropWhile_append_of_pos hbefore, hnone.2]
  have hlength : (before ++ rest).length - rest.length = before.length := by simp
  rw [hlength]
  exact congrArg₂ (fun blanks cs => Except.ok (cs.head?, Cursor.mk (offset + blanks.length) cs)) htake hdrop

theorem blanks_blanks {next : Option Char} (h : blanks c = .ok (next, c')) : blanks c' = .ok (next, c') := by
  cases h
  have hstop := List.head?_dropWhile_not isBlank c.rest
  refine (blanks_run (.refl _) (fun d hd => ?_) _).trans (by simp)
  rw [hd] at hstop
  exact hstop

theorem word_ok {cs : List Char} (h : word cs c = .ok (nothing, c')) : c.rest = cs ++ c'.rest := by
  induction cs generalizing c with
  | nil =>
    obtain ⟨_, rfl⟩ := pure_ok h
    rfl
  | cons d cs ih =>
    obtain ⟨next, c₁, hpeek, hnext⟩ := bind_eq_ok.mp h
    obtain ⟨rfl, rfl⟩ := peek_ok hpeek
    cases hhead : c₁.rest.head? with
    | none => simp [hhead] at hnext; cases hnext
    | some e =>
      simp only [hhead] at hnext
      split_ifs at hnext with he
      · obtain ⟨_, c₂, hskip, hword⟩ := bind_eq_ok.mp hnext
        rw [skip_ok hskip hhead.symm, ih hword, he, List.cons_append]
      · cases hnext

theorem colon_ok (h : colon c = .ok (nothing, c')) : Blanks c.rest (':' :: c'.rest) := by
  obtain ⟨next, c₁, hread, hnext⟩ := bind_eq_ok.mp h
  obtain ⟨hblanks, hhead⟩ := blanks_ok hread
  split at hnext
  · cases hnext
  · exact skip_ok hnext hhead ▸ hblanks
  · cases hnext

theorem closeList_ok (h : closeList c = .ok (nothing, c')) : Blanks c.rest (']' :: c'.rest) := by
  obtain ⟨next, c₁, hread, hnext⟩ := bind_eq_ok.mp h
  obtain ⟨hblanks, hhead⟩ := blanks_ok hread
  split at hnext
  · cases hnext
  · exact skip_ok hnext hhead ▸ hblanks
  · obtain ⟨_, c₂, _, hcomma⟩ := bind_eq_ok.mp hnext
    obtain ⟨next, c₃, _, hfault⟩ := bind_eq_ok.mp hcomma
    split_ifs at hfault <;> cases hfault
  · cases hnext

theorem text_ok {s : String} (h : text c = .ok (s, c')) : Spells c.rest s.toList c'.rest := by
  obtain ⟨_, _, hget, hread⟩ := bind_eq_ok.mp h
  cases hget
  cases hcs : Text.read 0 c.offset c.rest with
  | error fault => simp [hcs] at hread; cases hread
  | ok found =>
    simp only [hcs] at hread
    cases hread
    simpa using Text.spells_of_read hcs

theorem name_ok {s : String} (h : name c = .ok (s, c')) (hquote : some '"' = c.rest.head?) :
    ∃ cs, c.rest = '"' :: cs ∧ Spells cs s.toList c'.rest := by
  obtain ⟨_, c₁, hskip, htext⟩ := bind_eq_ok.mp h
  exact ⟨c₁.rest, skip_ok hskip hquote, text_ok htext⟩

theorem passText_ok (h : passText c = .ok (nothing, c')) (hquote : some '"' = c.rest.head?) :
    ∃ cs, c.rest = '"' :: cs ∧ Quoted cs c'.rest := by
  obtain ⟨_, c₁, hskip, htext⟩ := bind_eq_ok.mp h
  refine ⟨c₁.rest, skip_ok hskip hquote, ?_⟩
  obtain ⟨_, _, hget, hread⟩ := bind_eq_ok.mp htext
  cases hget
  cases hcs : Text.pass 0 c₁.offset c₁.rest with
  | error fault => simp [hcs] at hread; cases hread
  | ok stop =>
    simp only [hcs] at hread
    cases hread
    simpa using Text.quoted_of_pass hcs

theorem digits_ok {ds : List Char} (h : digits c = .ok (ds, c')) (hds : ds ≠ []) : Digits c.rest c'.rest := by
  cases h
  have hdigits := digits_append hds (fun d => List.mem_takeWhile_imp) (c.rest.dropWhile Char.isDigit)
  rwa [List.takeWhile_append_dropWhile] at hdigits

theorem someDigits_ok (h : (do if (← digits).isEmpty then failNext .badNumber) c = .ok (nothing, c')) :
    Digits c.rest c'.rest := by
  obtain ⟨ds, c₁, hdigits, hempty⟩ := bind_eq_ok.mp h
  split_ifs at hempty with hds
  · cases hempty
  · cases hempty
    exact digits_ok hdigits (by simpa using hds)

theorem passExponent_ok (h : (do
      if endsMantissa (← peek) then
        skip
        let sign ← peek
        if sign = some '+' ∨ sign = some '-' then skip
        if (← digits).isEmpty then failNext .badNumber) c = .ok (nothing, c')) : Exponent c.rest c'.rest := by
  obtain ⟨e, c₁, hpeek, he⟩ := bind_eq_ok.mp h
  obtain ⟨rfl, rfl⟩ := peek_ok hpeek
  split_ifs at he with hmantissa
  · obtain ⟨e, rest, hrest⟩ : ∃ e rest, c₁.rest = e :: rest := by
      cases hrest : c₁.rest with
      | nil => simp [hrest, endsMantissa] at hmantissa
      | cons e rest => exact ⟨e, rest, rfl⟩
    have hletter : e ∈ ['e', 'E'] := by simpa [hrest, endsMantissa] using hmantissa
    obtain ⟨_, c₂, hskip, hsign⟩ := bind_eq_ok.mp he
    obtain ⟨sign, c₃, hpeek, hdigits⟩ := bind_eq_ok.mp hsign
    obtain ⟨rfl, rfl⟩ := peek_ok hpeek
    have hafter := skip_ok hskip (congrArg List.head? hrest).symm
    simp only at hdigits
    split_ifs at hdigits with hsign
    · obtain ⟨_, c₄, hskip, hdigits⟩ := bind_eq_ok.mp hdigits
      rcases hsign with hsign | hsign
      · rw [hafter, skip_ok hskip hsign.symm]
        exact .signed hletter (by simp) (someDigits_ok hdigits)
      · rw [hafter, skip_ok hskip hsign.symm]
        exact .signed hletter (by simp) (someDigits_ok hdigits)
    · exact hafter ▸ .digits hletter (someDigits_ok hdigits)
  · cases he
    exact .none

theorem passFraction_ok (h : passFraction c = .ok (nothing, c')) :
    ∃ after, Fraction c.rest after ∧ Exponent after c'.rest := by
  obtain ⟨dot, c₁, hpeek, hdot⟩ := bind_eq_ok.mp h
  obtain ⟨rfl, rfl⟩ := peek_ok hpeek
  simp only at hdot
  split_ifs at hdot with hpoint
  · obtain ⟨_, c₂, hskip, hdigits⟩ := bind_eq_ok.mp hdot
    obtain ⟨ds, c₃, hdigits, hempty⟩ := bind_eq_ok.mp hdigits
    split_ifs at hempty with hds
    · cases hempty
    · refine ⟨c₃.rest, ?_, passExponent_ok hempty⟩
      rw [skip_ok hskip hpoint.symm]
      exact .digits (digits_ok hdigits (by simpa using hds))
  · exact ⟨c₁.rest, .none, passExponent_ok hdot⟩

theorem passNumber_ok (h : passNumber c = .ok (nothing, c')) :
    ∃ whole after, Whole c.rest whole ∧ Fraction whole after ∧ Exponent after c'.rest := by
  obtain ⟨next, c₁, hpeek, hnext⟩ := bind_eq_ok.mp h
  obtain ⟨hhead, rfl⟩ := peek_ok hpeek
  split at hnext
  · obtain ⟨_, c₂, hskip, hzero⟩ := bind_eq_ok.mp hnext
    obtain ⟨_, _, hpeek, hzero⟩ := bind_eq_ok.mp hzero
    obtain ⟨rfl, rfl⟩ := peek_ok hpeek
    split_ifs at hzero
    · cases hzero
    · obtain ⟨after, hfraction, hexponent⟩ := passFraction_ok hzero
      exact ⟨_, after, skip_ok hskip hhead ▸ .zero, hfraction, hexponent⟩
  · next d hzero =>
    split_ifs at hnext with hd
    · obtain ⟨ds, c₂, hdigits, hrest⟩ := bind_eq_ok.mp hnext
      obtain ⟨after, hfraction, hexponent⟩ := passFraction_ok hrest
      refine ⟨_, after, .digits ?_ (digits_ok hdigits ?_), hfraction, hexponent⟩
      · intro h
        exact hzero (Option.some.inj (hhead.trans h))
      · cases hdigits
        obtain ⟨rest, hrest⟩ := List.head?_eq_some_iff.mp hhead.symm
        simp [hrest, hd]
    · cases hnext
  · cases hnext

theorem passItems_ok {item : Reader Unit} {close : Char} {early late : Cause} {bound limit : Nat}
    {piece pieces : List Char → List Char → Prop}
    (hlast : ∀ {cs stop rest}, piece cs stop → Blanks stop rest → pieces cs rest)
    (hmore : ∀ {cs stop next rest}, piece cs stop → Blanks stop (',' :: next) → pieces next rest → pieces cs rest)
    (hlength : ∀ {cs stop}, piece cs stop → stop.length < cs.length)
    (hitem : ∀ {c c' : Cursor}, item c = .ok ((), c') → c.rest.length < limit → piece c.rest c'.rest)
    (h : passItems item close early late bound c = .ok (nothing, c')) (hbound : c.rest.length < bound)
    (hlimit : bound ≤ limit) : pieces c.rest (close :: c'.rest) := by
  induction bound generalizing c with
  | zero => cases hbound
  | succ bound ih =>
    obtain ⟨_, c₁, hread, hafter⟩ := bind_eq_ok.mp h
    have hpiece := hitem hread (Nat.lt_of_lt_of_le hbound hlimit)
    obtain ⟨next, c₂, hread, hnext⟩ := bind_eq_ok.mp hafter
    obtain ⟨hblanks, hhead⟩ := blanks_ok hread
    split at hnext
    · cases hnext
    · split_ifs at hnext with hcomma hclose
      · obtain ⟨_, c₃, hskip, hitems⟩ := bind_eq_ok.mp hnext
        have hrest : c₂.rest = ',' :: c₃.rest := hcomma ▸ skip_ok hskip hhead
        have hshorter := hblanks.length_le
        have hstop := hlength hpiece
        rw [hrest, List.length_cons] at hshorter
        exact hmore hpiece (hrest ▸ hblanks) (ih hitems (by omega) (by omega))
      · have hrest : c₂.rest = close :: c'.rest := hclose ▸ skip_ok hnext hhead
        exact hlast hpiece (hrest ▸ hblanks)
      · cases hnext

theorem passName_ok (h : passName c = .ok (nothing, c')) : ∃ name, Blanks c.rest ('"' :: name) ∧ Quoted name c'.rest := by
  obtain ⟨next, c₁, hread, hnext⟩ := bind_eq_ok.mp h
  obtain ⟨hblanks, hhead⟩ := blanks_ok hread
  split at hnext
  · cases hnext
  · obtain ⟨name, hname, hquoted⟩ := passText_ok hnext hhead
    exact ⟨name, hname ▸ hblanks, hquoted⟩
  · cases hnext

theorem passMember_ok {bound : Nat} (hpass : ∀ {c c' : Cursor}, pass bound c = .ok ((), c') → c.rest.length < bound →
      Item c.rest c'.rest) (h : (do passName; colon; pass bound) c = .ok ((), c')) (hbound : c.rest.length < bound) :
    Member c.rest c'.rest := by
  obtain ⟨_, c₁, hname, hcolon⟩ := bind_eq_ok.mp h
  obtain ⟨_, c₂, hcolon, hvalue⟩ := bind_eq_ok.mp hcolon
  obtain ⟨name, hblanks, hquoted⟩ := passName_ok hname
  have hnamed : Name c.rest c₂.rest := ⟨name, c₁.rest, hblanks, hquoted, colon_ok hcolon⟩
  obtain ⟨start, hstart, hvalue⟩ := hpass hvalue (hnamed.length_lt.trans hbound)
  exact .mk hnamed hstart hvalue

theorem pass_ok {bound : Nat} (h : pass bound c = .ok (nothing, c')) (hbound : c.rest.length < bound) :
    Item c.rest c'.rest := by
  induction bound generalizing c c' with
  | zero => cases hbound
  | succ bound ih =>
    obtain ⟨next, c₁, hread, hnext⟩ := bind_eq_ok.mp h
    obtain ⟨hblanks, hhead⟩ := blanks_ok hread
    refine ⟨c₁.rest, hblanks, ?_⟩
    have hlength := hblanks.length_le
    split at hnext
    · cases hnext
    · obtain ⟨_, c₂, hskip, hword⟩ := bind_eq_ok.mp hnext
      rw [skip_ok hskip hhead, word_ok hword]
      exact .null
    · obtain ⟨_, c₂, hskip, hword⟩ := bind_eq_ok.mp hnext
      rw [skip_ok hskip hhead, word_ok hword]
      exact .true
    · obtain ⟨_, c₂, hskip, hword⟩ := bind_eq_ok.mp hnext
      rw [skip_ok hskip hhead, word_ok hword]
      exact .false
    · obtain ⟨_, c₂, hskip, hnumber⟩ := bind_eq_ok.mp hnext
      obtain ⟨whole, after, hwhole, hfraction, hexponent⟩ := passNumber_ok hnumber
      rw [skip_ok hskip hhead]
      exact .number (.negative hwhole hfraction hexponent)
    · obtain ⟨cs, hcs, hquoted⟩ := passText_ok hnext hhead
      exact hcs ▸ .text hquoted
    · obtain ⟨_, c₂, hskip, hlist⟩ := bind_eq_ok.mp hnext
      obtain ⟨first, c₃, hread, hitems⟩ := bind_eq_ok.mp hlist
      obtain ⟨hblanks₂, hhead₂⟩ := blanks_ok hread
      have hopen := skip_ok hskip hhead
      have hinside := hblanks₂.length_le
      rw [hopen, List.length_cons] at hlength
      rw [hopen]
      split at hitems
      · cases hitems
      · exact .emptyList (skip_ok hitems hhead₂ ▸ hblanks₂)
      · refine .list (.after_blanks hblanks₂ ?_)
        exact passItems_ok (fun ⟨_, hbefore, hvalue⟩ => .last hbefore hvalue)
          (fun ⟨_, hbefore, hvalue⟩ => .more hbefore hvalue) Item.length_lt ih hitems (by omega) (Nat.le_refl _)
    · obtain ⟨_, c₂, hskip, hobject⟩ := bind_eq_ok.mp hnext
      obtain ⟨first, c₃, hread, hmembers⟩ := bind_eq_ok.mp hobject
      obtain ⟨hblanks₂, hhead₂⟩ := blanks_ok hread
      have hopen := skip_ok hskip hhead
      have hinside := hblanks₂.length_le
      rw [hopen, List.length_cons] at hlength
      rw [hopen]
      split at hmembers
      · cases hmembers
      · exact .emptyObject (skip_ok hmembers hhead₂ ▸ hblanks₂)
      · refine .object (.after_blanks hblanks₂ ?_)
        exact passItems_ok .last .more Member.length_lt (passMember_ok ih) hmembers (by omega) (Nat.le_refl _)
    · next d hnull htrue hfalse hminus hquote hbracket hbrace =>
      split_ifs at hnext with hd
      · obtain ⟨whole, after, hwhole, hfraction, hexponent⟩ := passNumber_ok hnext
        exact .number (.positive hwhole hfraction hexponent)
      · cases hnext

theorem hasItem_ok {first more : Bool} (h : hasItem first c = .ok (more, c')) :
    (more = false ∧ Blanks c.rest c'.rest) ∨ (more = true ∧ ∃ next, Next first c.rest next ∧ Blanks next c'.rest) := by
  obtain ⟨next, c₁, hread, hnext⟩ := bind_eq_ok.mp h
  obtain ⟨hblanks, hhead⟩ := blanks_ok hread
  split at hnext
  · cases hnext
  · cases hnext
    exact .inl ⟨rfl, hblanks⟩
  · cases first with
    | true =>
      cases hnext
      exact .inr ⟨rfl, c.rest, rfl, hblanks⟩
    | false =>
      rw [if_neg Bool.false_ne_true] at hnext
      split_ifs at hnext with hcomma
      · subst hcomma
        obtain ⟨_, c₂, hskip, hafter⟩ := bind_eq_ok.mp hnext
        obtain ⟨next, c₃, hread, hitem⟩ := bind_eq_ok.mp hafter
        rw [skip_ok hskip hhead] at hblanks
        split at hitem
        · cases hitem
        · cases hitem
        · cases hitem
          exact .inr ⟨rfl, c₂.rest, hblanks, (blanks_ok hread).1⟩
      · cases hnext

theorem hasMember_ok {first : Bool} (h : hasMember first c = .ok (true, c')) :
    ∃ next, Next first c.rest next ∧ Blanks next c'.rest ∧ some '"' = c'.rest.head? := by
  obtain ⟨next, c₁, hread, hnext⟩ := bind_eq_ok.mp h
  obtain ⟨hblanks, hhead⟩ := blanks_ok hread
  split at hnext
  · cases hnext
  · cases hnext
  · cases first with
    | true =>
      rw [if_pos rfl] at hnext
      split_ifs at hnext with hquote
      · cases hnext
        exact ⟨c.rest, rfl, hblanks, hquote ▸ hhead⟩
      · cases hnext
    | false =>
      rw [if_neg Bool.false_ne_true] at hnext
      split_ifs at hnext with hcomma
      · subst hcomma
        obtain ⟨_, c₂, hskip, hafter⟩ := bind_eq_ok.mp hnext
        obtain ⟨next, c₃, hread, hmember⟩ := bind_eq_ok.mp hafter
        rw [skip_ok hskip hhead] at hblanks
        obtain ⟨hbefore, hquote⟩ := blanks_ok hread
        split at hmember
        · cases hmember
        · cases hmember
          exact ⟨c₂.rest, hblanks, hbefore, hquote⟩
        · cases hmember
        · cases hmember
      · cases hnext

section List

variable {item : Reader α} {bound : Nat} {xs : List α}

theorem items_ok {first : Bool} {rest : List Char}
    (hitem : ∀ {c c' : Cursor} {x : α}, item c = .ok (x, c') → Item c.rest c'.rest)
    (h : items item bound first c = .ok (xs, c')) (hclose : Blanks c'.rest (']' :: rest)) :
    Blanks c.rest (']' :: rest) ∨ ∃ next, Next first c.rest next ∧ Items next (']' :: rest) := by
  induction bound generalizing c first xs with
  | zero =>
    cases h
    exact .inl hclose
  | succ bound ih =>
    obtain ⟨more, c₁, hmore, hrest⟩ := bind_eq_ok.mp h
    rcases hasItem_ok hmore with ⟨rfl, hblanks⟩ | ⟨rfl, next, hbegin, hblanks⟩
    · cases hrest
      exact .inl (hblanks.trans hclose)
    · obtain ⟨x, c₂, hx, hrest⟩ := bind_eq_ok.mp hrest
      obtain ⟨xs, c₃, hxs, hrest⟩ := bind_eq_ok.mp hrest
      cases hrest
      obtain ⟨start, hstart, hvalue⟩ := hitem hx
      refine .inr ⟨next, hbegin, .after_blanks hblanks ?_⟩
      rcases ih hxs with hclose | ⟨next, hcomma, hitems⟩
      · exact .last hstart hvalue hclose
      · exact .more hstart hvalue hcomma hitems

theorem list_ok (hitem : ∀ {c c' : Cursor} {x : α}, item c = .ok (x, c') → Item c.rest c'.rest)
    (h : list bound item c = .ok (xs, c')) : Value ('[' :: c.rest) c'.rest := by
  obtain ⟨_, c₁, hitems, hrest⟩ := bind_eq_ok.mp h
  obtain ⟨_, c₂, hclose, hrest⟩ := bind_eq_ok.mp hrest
  cases hrest
  rcases items_ok hitem hitems (closeList_ok hclose) with hblanks | ⟨_, rfl, hitems⟩
  · exact .emptyList hblanks
  · exact .list hitems

end List

end Reader

end Gloss.Json
