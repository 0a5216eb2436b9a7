import Gloss.Proofs.Escape.Spelling

namespace Gloss

namespace Utf16

theorem decode_cut {us vs : List Nat} (h : ∀ v ∈ vs.head?, isLow v = false) :
    decode (us ++ vs) = decode us ++ decode vs := by
  induction us using decode.induct with
  | case1 => rfl
  | case2 u =>
    cases vs with
    | nil => simp [decode]
    | cons v vs => simp [decode, h v rfl]
  | case3 u v us hpair ih => simp [decode, hpair, ih]
  | case4 u v us hpair ih =>
    rw [List.cons_append] at ih
    simp [decode, hpair, ih]

theorem isLow_head_units (c : Char) (us : List Nat) : ∀ v ∈ (units c ++ us).head?, isLow v = false := by
  rcases units_cases c with ⟨hunits, hplain⟩ | ⟨high, low, hunits, hhigh, _, _⟩
  · rw [hunits]
    rintro v ⟨⟩
    exact (Bool.or_eq_false_iff.mp hplain).2
  · rw [hunits]
    rintro v ⟨⟩
    simp only [isHigh, Bool.and_eq_true, decide_eq_true_eq] at hhigh
    simp only [isLow, Bool.and_eq_false_iff, decide_eq_false_iff_not]
    omega

theorem decode_ne_nil {us : List Nat} (h : us ≠ []) : decode us ≠ [] := by
  match us with
  | [] => exact absurd rfl h
  | [u] => simp [decode]
  | u :: v :: us =>
    rw [decode]
    split <;> simp

end Utf16

namespace Escape

def carriers : List Char := 'u' :: (marks ++ lowerDigits ++ upperDigits)

/-- What stands after the mark of an escape, and the unit that the escape is. -/
inductive Body : Nat → List Char → Prop
  | wide {u a b c d} : hexValue? [a, b, c, d] = some u → Body u ['u', a, b, c, d]
  | byte {u a b} : hexValue? [a, b] = some u → Body u [a, b]

theorem mem_carriers_of_isDigit {c : Char} {n : Nat} (h : IsDigit c n) : c ∈ carriers := by
  refine List.mem_cons_of_mem _ ?_
  rcases h with h | h
  · exact List.mem_append_left _ (List.mem_append_right _ (List.mem_of_getElem? h))
  · exact List.mem_append_right _ (List.mem_of_getElem? h)

theorem Body.carried {u : Nat} {body : List Char} (h : Body u body) : ∀ c ∈ body, c ∈ carriers := by
  have hdigits : ∀ {digits : List Char}, hexValue? digits = some u → ∀ d ∈ digits, d ∈ carriers := by
    intro digits hvalue d hd
    obtain ⟨n, hn⟩ := digits_of_hexValue? hvalue d hd
    exact mem_carriers_of_isDigit hn
  cases h with
  | wide hvalue => exact List.forall_mem_cons.mpr ⟨by decide, hdigits hvalue⟩
  | byte hvalue => exact hdigits hvalue

theorem unit?_eq_some_iff {cs : List Char} {u n : Nat} :
    unit? cs = some (u, n) ↔ ∃ body rest, cs = body ++ rest ∧ Body u body ∧ n = body.length := by
  constructor
  · intro h
    unfold unit? at h
    split at h
    · next a b c d rest =>
      obtain ⟨_, hvalue, hpair⟩ := Option.map_eq_some_iff.mp h
      obtain ⟨rfl, rfl⟩ := Prod.mk.inj hpair
      exact ⟨['u', a, b, c, d], rest, rfl, .wide hvalue, rfl⟩
    · next a b rest _ =>
      obtain ⟨_, hvalue, hpair⟩ := Option.map_eq_some_iff.mp h
      obtain ⟨rfl, rfl⟩ := Prod.mk.inj hpair
      exact ⟨[a, b], rest, rfl, .byte hvalue, rfl⟩
    · cases h
  · rintro ⟨body, rest, rfl, hbody, rfl⟩
    cases hbody with
    | wide hvalue => simp [unit?, hvalue]
    | @byte a b hvalue =>
      obtain ⟨n, hn⟩ := digits_of_hexValue? hvalue a List.mem_cons_self
      exact unit?_byte (ne_u_of_isDigit hn) hvalue rest

variable {rest : List Char}

theorem unit?_cut (h : ∀ c ∈ rest.head?, c ∉ carriers) (cs : List Char) : unit? (cs ++ rest) = unit? cs := by
  refine Option.ext fun ⟨u, n⟩ => ?_
  rw [unit?_eq_some_iff, unit?_eq_some_iff]
  constructor
  · rintro ⟨body, after, heq, hbody, rfl⟩
    rcases List.append_eq_append_iff.mp heq with ⟨beyond, rfl, rfl⟩ | ⟨more, rfl, rfl⟩
    · cases beyond with
      | nil => exact ⟨cs, [], by simp, by simpa using hbody, by simp⟩
      | cons c beyond => exact absurd (hbody.carried c (by simp)) (h c rfl)
    · exact ⟨body, more, rfl, hbody, rfl⟩
  · rintro ⟨body, after, rfl, hbody, rfl⟩
    exact ⟨body, after ++ rest, List.append_assoc .., hbody, rfl⟩

theorem units_cut (h : ∀ c ∈ rest.head?, c ∉ carriers) (cs : List Char) {skip : Nat} (hskip : skip ≤ cs.length) :
    units skip (cs ++ rest) = units skip cs ++ units 0 rest := by
  -- an escape skips what is left of it, and that stands before the cut
  induction cs generalizing skip with
  | nil =>
    obtain rfl : skip = 0 := by simpa using hskip
    rfl
  | cons c cs ih =>
    cases skip with
    | succ skip => exact ih (by simpa using hskip)
    | zero =>
      simp only [List.cons_append, units, unit?_cut h]
      split
      · cases hunit : unit? cs with
        | none => simp [ih]
        | some found =>
          obtain ⟨u, n⟩ := found
          have hn : n ≤ cs.length := by
            obtain ⟨body, after, rfl, _, rfl⟩ := unit?_eq_some_iff.mp hunit
            simp
          simp [ih hn]
      · simp [ih]

theorem isLow_head_units (h : ∀ c ∈ rest.head?, c ∉ carriers) :
    ∀ v ∈ (units 0 rest).head?, Utf16.isLow v = false := by
  cases rest with
  | nil => simp [units]
  | cons c cs =>
    have hmark : isMark c ≠ true := by
      rw [Ne, isMark_iff]
      exact fun hm => h c rfl (by simp [carriers, hm])
    rw [units, if_neg hmark]
    exact Utf16.isLow_head_units c _

/-- Before a character that no escape is made of, a raw value may be cut: its halves decode apart. -/
theorem decode_append {a b : String} (h : ∀ c ∈ b.toList.head?, c ∉ carriers) :
    decode (a ++ b) = decode a ++ decode b := by
  rw [decode, String.toList_append, units_cut h _ (Nat.zero_le _), Utf16.decode_cut (isLow_head_units h),
    String.ofList_append]
  rfl

theorem half_pair_cut : (∀ c ∈ "😀%".toList.head?, c ∉ carriers) ∧
    decode ("%u12\\ud83D" ++ "😀%") = "%u12\uFFFD" ++ "😀%" := by
  have h : ∀ c ∈ "😀%".toList.head?, c ∉ carriers := by
    rintro c ⟨⟩
    decide
  exact ⟨h, (decode_append h).trans (by decide +kernel)⟩

theorem units_ne_nil {cs : List Char} (h : cs ≠ []) : units 0 cs ≠ [] := by
  obtain ⟨c, cs, rfl⟩ := List.exists_cons_of_ne_nil h
  rw [units]
  split
  · split <;> simp
  · rcases Utf16.units_cases c with ⟨hunits, _⟩ | ⟨_, _, hunits, _⟩ <;> simp [hunits]

theorem decode_eq_empty_iff {raw : String} : decode raw = "" ↔ raw = "" := by
  constructor
  · intro h
    by_contra hne
    have hraw : raw.toList ≠ [] := by simpa using hne
    refine Utf16.decode_ne_nil (units_ne_nil hraw) ?_
    simpa [decode] using h
  · rintro rfl
    rfl

end Escape

end Gloss
