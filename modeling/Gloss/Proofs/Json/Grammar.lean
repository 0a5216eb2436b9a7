import Gloss.Json.Reader
import Mathlib.Tactic

/-!
The grammar of JSON texts. Each relation leads from a text to what is left of it, so that a piece of the grammar is
what lies between the two.
-/

namespace Gloss.Json.Grammar

def Blanks (cs rest : List Char) : Prop := ∃ blanks, cs = blanks ++ rest ∧ ∀ c ∈ blanks, Reader.isBlank c = true

inductive Quoted : List Char → List Char → Prop
  | close {rest} : Quoted ('"' :: rest) rest
  | itself {c cs rest} : c ≠ '"' → c ≠ '\\' → ¬ c < ' ' → Quoted cs rest → Quoted (c :: cs) rest
  | named {c d cs rest} : (c, d) ∈ Text.named → Quoted cs rest → Quoted ('\\' :: c :: cs) rest
  | unit {ds u cs rest} : ds.length = 4 → Escape.hexValue? ds = some u → Quoted cs rest →
      Quoted ('\\' :: 'u' :: (ds ++ cs)) rest

/-- Such a text and the characters that it spells: a surrogate has to have its pair. -/
inductive Spells : List Char → List Char → List Char → Prop
  | close {rest} : Spells ('"' :: rest) [] rest
  | itself {c cs s rest} : c ≠ '"' → c ≠ '\\' → ¬ c < ' ' → Spells cs s rest → Spells (c :: cs) (c :: s) rest
  | named {c d cs s rest} : (c, d) ∈ Text.named → Spells cs s rest → Spells ('\\' :: c :: cs) (d :: s) rest
  | unit {ds u cs s rest} : ds.length = 4 → Escape.hexValue? ds = some u → Utf16.isSurrogate u = false →
      Spells cs s rest → Spells ('\\' :: 'u' :: (ds ++ cs)) (Char.ofNat u :: s) rest
  | pair {ds es u v cs s rest} : ds.length = 4 → Escape.hexValue? ds = some u → Utf16.isHigh u = true →
      es.length = 4 → Escape.hexValue? es = some v → Utf16.isLow v = true → Spells cs s rest →
      Spells ('\\' :: 'u' :: (ds ++ '\\' :: 'u' :: (es ++ cs))) (Utf16.joined u v :: s) rest

inductive Digits : List Char → List Char → Prop
  | last {d rest} : d.isDigit = true → Digits (d :: rest) rest
  | more {d cs rest} : d.isDigit = true → Digits cs rest → Digits (d :: cs) rest

inductive Whole : List Char → List Char → Prop
  | zero {rest} : Whole ('0' :: rest) rest
  | digits {cs rest} : cs.head? ≠ some '0' → Digits cs rest → Whole cs rest

inductive Fraction : List Char → List Char → Prop
  | none {rest} : Fraction rest rest
  | digits {cs rest} : Digits cs rest → Fraction ('.' :: cs) rest

inductive Exponent : List Char → List Char → Prop
  | none {rest} : Exponent rest rest
  | digits {e cs rest} : e ∈ ['e', 'E'] → Digits cs rest → Exponent (e :: cs) rest
  | signed {e sign cs rest} : e ∈ ['e', 'E'] → sign ∈ ['+', '-'] → Digits cs rest → Exponent (e :: sign :: cs) rest

inductive Number : List Char → List Char → Prop
  | positive {cs whole fraction rest} : Whole cs whole → Fraction whole fraction → Exponent fraction rest →
      Number cs rest
  | negative {cs whole fraction rest} : Whole cs whole → Fraction whole fraction → Exponent fraction rest →
      Number ('-' :: cs) rest

def Name (cs rest : List Char) : Prop :=
  ∃ name after, Blanks cs ('"' :: name) ∧ Quoted name after ∧ Blanks after (':' :: rest)

mutual

inductive Value : List Char → List Char → Prop
  | null {rest} : Value ('n' :: 'u' :: 'l' :: 'l' :: rest) rest
  | true {rest} : Value ('t' :: 'r' :: 'u' :: 'e' :: rest) rest
  | false {rest} : Value ('f' :: 'a' :: 'l' :: 's' :: 'e' :: rest) rest
  | number {cs rest} : Number cs rest → Value cs rest
  | text {cs rest} : Quoted cs rest → Value ('"' :: cs) rest
  | emptyList {cs rest} : Blanks cs (']' :: rest) → Value ('[' :: cs) rest
  | list {cs rest} : Items cs (']' :: rest) → Value ('[' :: cs) rest
  | emptyObject {cs rest} : Blanks cs ('\x7d' :: rest) → Value ('\x7b' :: cs) rest
  | object {cs rest} : Members cs ('\x7d' :: rest) → Value ('\x7b' :: cs) rest

inductive Items : List Char → List Char → Prop
  | last {cs start stop rest} : Blanks cs start → Value start stop → Blanks stop rest → Items cs rest
  | more {cs start stop next rest} : Blanks cs start → Value start stop → Blanks stop (',' :: next) →
      Items next rest → Items cs rest

inductive Member : List Char → List Char → Prop
  | mk {cs colon start rest} : Name cs colon → Blanks colon start → Value start rest → Member cs rest

inductive Members : List Char → List Char → Prop
  | last {cs stop rest} : Member cs stop → Blanks stop rest → Members cs rest
  | more {cs stop next rest} : Member cs stop → Blanks stop (',' :: next) → Members next rest → Members cs rest

end

theorem Blanks.refl (cs : List Char) : Blanks cs cs := ⟨[], rfl, by simp⟩

theorem Blanks.trans {cs middle rest : List Char} (h : Blanks cs middle) (hrest : Blanks middle rest) :
    Blanks cs rest := by
  obtain ⟨before, rfl, hbefore⟩ := h
  obtain ⟨after, rfl, hafter⟩ := hrest
  refine ⟨before ++ after, (List.append_assoc ..).symm, fun c hc => ?_⟩
  exact (List.mem_append.mp hc).elim (hbefore c) (hafter c)

/-- Where the next item of a list or the next member of an object begins: the first is there, another one has a comma
before it. -/
def Next : (first : Bool) → List Char → List Char → Prop
  | true, cs, next => next = cs
  | false, cs, next => Blanks cs (',' :: next)

theorem next_first (cs : List Char) : Next true cs cs := rfl

theorem next_comma (next : List Char) : Next false (',' :: next) next := Blanks.refl _

def Item (cs rest : List Char) : Prop := ∃ start, Blanks cs start ∧ Value start rest

theorem Items.after_blanks {cs start rest : List Char} (hblanks : Blanks cs start) (h : Items start rest) :
    Items cs rest := by
  cases h with
  | last hbefore hvalue hafter => exact .last (hblanks.trans hbefore) hvalue hafter
  | more hbefore hvalue hafter hitems => exact .more (hblanks.trans hbefore) hvalue hafter hitems

theorem Name.after_blanks {cs start rest : List Char} (hblanks : Blanks cs start) (h : Name start rest) :
    Name cs rest := by
  obtain ⟨name, after, hquote, hquoted, hcolon⟩ := h
  exact ⟨name, after, hblanks.trans hquote, hquoted, hcolon⟩

theorem Member.after_blanks {cs start rest : List Char} (hblanks : Blanks cs start) (h : Member start rest) :
    Member cs rest := by
  obtain ⟨hname, hbefore, hvalue⟩ := h
  exact .mk (hname.after_blanks hblanks) hbefore hvalue

theorem Members.after_blanks {cs start rest : List Char} (hblanks : Blanks cs start) (h : Members start rest) :
    Members cs rest := by
  cases h with
  | last hmember hafter => exact .last (hmember.after_blanks hblanks) hafter
  | more hmember hafter hmembers => exact .more (hmember.after_blanks hblanks) hafter hmembers

theorem Spells.quoted {cs s rest : List Char} (h : Spells cs s rest) : Quoted cs rest := by
  induction h with
  | close => exact .close
  | itself hquote hslash hlow _ ih => exact .itself hquote hslash hlow ih
  | named hm _ ih => exact .named hm ih
  | unit hlength hvalue _ _ ih => exact .unit hlength hvalue ih
  | pair hlength hvalue _ hlength' hvalue' _ _ ih => exact .unit hlength hvalue (.unit hlength' hvalue' ih)

theorem digits_append {ds : List Char} (hne : ds ≠ []) (hds : ∀ d ∈ ds, d.isDigit = true) (rest : List Char) :
    Digits (ds ++ rest) rest := by
  induction ds with
  | nil => exact absurd rfl hne
  | cons d ds ih =>
    obtain ⟨hd, hds⟩ := List.forall_mem_cons.mp hds
    cases ds with
    | nil => exact .last hd
    | cons e ds => exact .more hd (ih (List.cons_ne_nil e ds) hds)

/-! ### What a text begins with -/

theorem blanks_cons_iff {c : Char} {cs rest : List Char} (hc : Reader.isBlank c = false) :
    Blanks (c :: cs) rest ↔ rest = c :: cs := by
  refine ⟨?_, fun h => h ▸ .refl _⟩
  rintro ⟨_ | ⟨d, blanks⟩, hcs, hblanks⟩
  · exact hcs.symm
  · obtain ⟨rfl, _⟩ := List.cons.inj hcs
    exact absurd (hblanks c List.mem_cons_self) (by simp [hc])

theorem quoted_quote_iff {cs rest : List Char} : Quoted ('"' :: cs) rest ↔ rest = cs := by
  refine ⟨fun h => ?_, fun h => h ▸ .close⟩
  cases h with
  | close => rfl
  | itself hquote => exact absurd rfl hquote

theorem quoted_cons_iff {c : Char} {cs rest : List Char} (hquote : c ≠ '"') (hslash : c ≠ '\\') (hlow : ¬ c < ' ') :
    Quoted (c :: cs) rest ↔ Quoted cs rest := by
  refine ⟨fun h => ?_, .itself hquote hslash hlow⟩
  cases h with
  | close => exact absurd rfl hquote
  | itself _ _ _ h => exact h
  | named | unit => exact absurd rfl hslash

theorem spells_head {c : Char} {cs s rest : List Char} (h : Spells (c :: cs) s rest) (hquote : c ≠ '"')
    (hslash : c ≠ '\\') : s.head? = some c := by
  cases h with
  | close => exact absurd rfl hquote
  | itself => rfl
  | named | unit | pair => exact absurd rfl hslash

theorem number_head {c : Char} {cs rest : List Char} (h : Number (c :: cs) rest) : c = '-' ∨ c.isDigit = true := by
  cases h with
  | negative => exact .inl rfl
  | positive hwhole =>
    cases hwhole with
    | zero => exact .inr rfl
    | digits _ hdigits => cases hdigits with | last hc | more hc => exact .inr hc

theorem value_null_iff {cs rest : List Char} : Value ('n' :: cs) rest ↔ cs = 'u' :: 'l' :: 'l' :: rest := by
  refine ⟨fun h => ?_, fun h => h ▸ .null⟩
  cases h with
  | null => rfl
  | number h => exact (number_head h).elim (by simp) (by simp)

/-! ### Nothing is added -/

theorem Blanks.length_le {cs rest : List Char} (h : Blanks cs rest) : rest.length ≤ cs.length := by
  obtain ⟨blanks, rfl, _⟩ := h
  simp

theorem Quoted.length_lt {cs rest : List Char} (h : Quoted cs rest) : rest.length < cs.length := by
  induction h with
  | close => simp
  | itself _ _ _ _ ih => exact Nat.lt_succ_of_lt ih
  | named _ _ ih =>
    simp only [List.length_cons]
    omega
  | unit _ _ _ ih =>
    simp only [List.length_cons, List.length_append]
    omega

theorem Digits.length_lt {cs rest : List Char} (h : Digits cs rest) : rest.length < cs.length := by
  induction h with
  | last => simp
  | more _ _ ih => exact Nat.lt_succ_of_lt ih

theorem Whole.length_lt {cs rest : List Char} (h : Whole cs rest) : rest.length < cs.length := by
  cases h with
  | zero => simp
  | digits _ hdigits => exact hdigits.length_lt

theorem Fraction.length_le {cs rest : List Char} (h : Fraction cs rest) : rest.length ≤ cs.length := by
  cases h with
  | none => exact Nat.le_refl _
  | digits hdigits => exact (Nat.lt_succ_of_lt hdigits.length_lt).le

theorem Exponent.length_le {cs rest : List Char} (h : Exponent cs rest) : rest.length ≤ cs.length := by
  cases h with
  | none => exact Nat.le_refl _
  | digits _ hdigits => exact (Nat.lt_succ_of_lt hdigits.length_lt).le
  | signed _ _ hdigits => exact (Nat.lt_succ_of_lt (Nat.lt_succ_of_lt hdigits.length_lt)).le

theorem Number.length_lt {cs rest : List Char} (h : Number cs rest) : rest.length < cs.length := by
  cases h with
  | positive hwhole hfraction hexponent =>
    exact (hexponent.length_le.trans hfraction.length_le).trans_lt hwhole.length_lt
  | negative hwhole hfraction hexponent =>
    exact Nat.lt_succ_of_lt ((hexponent.length_le.trans hfraction.length_le).trans_lt hwhole.length_lt)

theorem Name.length_lt {cs rest : List Char} (h : Name cs rest) : rest.length < cs.length := by
  obtain ⟨name, after, hquote, hquoted, hcolon⟩ := h
  have hbefore := hquote.length_le
  have hname := hquoted.length_lt
  have hafter := hcolon.length_le
  rw [List.length_cons] at hbefore hafter
  omega

theorem Next.length_le {first : Bool} {cs next : List Char} (h : Next first cs next) : next.length ≤ cs.length := by
  cases first with
  | true => exact h ▸ Nat.le_refl _
  | false => exact (Nat.le_succ _).trans (Blanks.length_le h)

mutual

theorem Value.length_lt {cs rest : List Char} : Value cs rest → rest.length < cs.length
  | .null | .true | .false => by
    simp only [List.length_cons]
    omega
  | .number h => h.length_lt
  | .text h => Nat.lt_succ_of_lt h.length_lt
  | .emptyList h | .emptyObject h => Nat.lt_succ_of_lt (Nat.lt_of_succ_le h.length_le)
  | .list h => Nat.lt_succ_of_lt (Nat.lt_of_succ_le (Items.length_lt h).le)
  | .object h => Nat.lt_succ_of_lt (Nat.lt_of_succ_le (Members.length_lt h).le)

theorem Items.length_lt {cs rest : List Char} : Items cs rest → rest.length < cs.length
  | .last hbefore hvalue hafter => (hafter.length_le.trans_lt (Value.length_lt hvalue)).trans_le hbefore.length_le
  | .more hbefore hvalue hafter hitems => by
    have hnext := Items.length_lt hitems
    have hcomma := hafter.length_le
    have hstop := Value.length_lt hvalue
    have hstart := hbefore.length_le
    rw [List.length_cons] at hcomma
    omega

theorem Member.length_lt {cs rest : List Char} : Member cs rest → rest.length < cs.length
  | .mk hname hblanks hvalue => ((Value.length_lt hvalue).trans_le hblanks.length_le).trans hname.length_lt

theorem Members.length_lt {cs rest : List Char} : Members cs rest → rest.length < cs.length
  | .last hmember hafter => hafter.length_le.trans_lt (Member.length_lt hmember)
  | .more hmember hafter hmembers => by
    have hnext := Members.length_lt hmembers
    have hcomma := hafter.length_le
    have hstop := Member.length_lt hmember
    rw [List.length_cons] at hcomma
    omega

end

theorem Item.length_lt {cs rest : List Char} (h : Item cs rest) : rest.length < cs.length := by
  obtain ⟨start, hblanks, hvalue⟩ := h
  exact hvalue.length_lt.trans_le hblanks.length_le

end Gloss.Json.Grammar
