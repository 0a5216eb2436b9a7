import Gloss.Escape
import Gloss.Proofs.Text.Utf16

namespace Gloss.Escape

def lowerDigits : List Char := "0123456789abcdef".toList

def upperDigits : List Char := "0123456789ABCDEF".toList

def IsDigit (c : Char) (n : Nat) : Prop := lowerDigits[n]? = some c ∨ upperDigits[n]? = some c

instance (c : Char) (n : Nat) : Decidable (IsDigit c n) := inferInstanceAs (Decidable (_ ∨ _))

def lastDigits : (width : Nat) → Nat → List Nat
  | 0, _ => []
  | width + 1, u => lastDigits width (u / 16) ++ [u % 16]

theorem hexDigit?_of_isDigit {c : Char} {n : Nat} (h : IsDigit c n) : hexDigit? c = some n := by
  have hread : ∀ digits : List Char, digits.map hexDigit? = (List.range 16).map some → digits[n]? = some c →
      hexDigit? c = some n := by
    intro digits htable hc
    have hat : (digits.map hexDigit?)[n]? = some (hexDigit? c) := by rw [List.getElem?_map, hc, Option.map_some]
    rw [htable, List.getElem?_map, Option.map_eq_some_iff] at hat
    obtain ⟨m, hm, hdigit⟩ := hat
    obtain ⟨_, rfl⟩ := List.getElem?_eq_some_iff.mp hm
    rw [← hdigit, List.getElem_range]
  rcases h with h | h
  · exact hread lowerDigits (by decide) h
  · exact hread upperDigits (by decide) h

theorem isDigit_of_hexDigit? {c : Char} {n : Nat} (h : hexDigit? c = some n) : IsDigit c n := by
  have htable : ∀ m < 128, ∀ n ∈ hexDigit? (Char.ofNat m), IsDigit (Char.ofNat m) n := by decide
  have hsmall : c.toNat < 128 := by
    have htoNat : ∀ a b : Char, a ≤ b ↔ a.toNat ≤ b.toNat := fun a b => Iff.rfl
    simp only [hexDigit?, htoNat, Char.reduceToNat] at h
    split at h
    · omega
    · split at h
      · omega
      · split at h
        · omega
        · cases h
  have := htable c.toNat hsmall n
  rw [Char.ofNat_toNat] at this
  exact this h

theorem foldlM_of_digits {ds : List Char} {ns : List Nat} (h : List.Forall₂ IsDigit ds ns) (v : Nat) :
    ds.foldlM (fun n c => (hexDigit? c).map (16 * n + ·)) v = some (ns.foldl (16 * · + ·) v) := by
  induction h generalizing v with
  | nil => rfl
  | cons hd _ ih =>
    rw [List.foldlM_cons, hexDigit?_of_isDigit hd, Option.map_some, Option.bind_eq_bind, Option.bind_some, ih,
      List.foldl_cons]

theorem digits_of_foldlM {ds : List Char} {v w : Nat}
    (h : ds.foldlM (fun n c => (hexDigit? c).map (16 * n + ·)) v = some w) : ∀ d ∈ ds, ∃ n, IsDigit d n := by
  induction ds generalizing v with
  | nil => simp
  | cons d ds ih =>
    rw [List.foldlM_cons] at h
    obtain ⟨_, hfirst, hrest⟩ := Option.bind_eq_some_iff.mp h
    obtain ⟨n, hn, _⟩ := Option.map_eq_some_iff.mp hfirst
    exact List.forall_mem_cons.mpr ⟨⟨n, isDigit_of_hexDigit? hn⟩, ih hrest⟩

theorem digits_of_hexValue? {ds : List Char} {u : Nat} (h : hexValue? ds = some u) : ∀ d ∈ ds, ∃ n, IsDigit d n :=
  digits_of_foldlM h

theorem foldl_lastDigits {width u : Nat} (h : u < 16 ^ width) : (lastDigits width u).foldl (16 * · + ·) 0 = u := by
  induction width generalizing u with
  | zero =>
    obtain rfl : u = 0 := by simpa using h
    rfl
  | succ width ih =>
    rw [lastDigits, List.foldl_append, ih (by omega), List.foldl_cons, List.foldl_nil, Nat.div_add_mod]

theorem hexValue?_of_digits {width u : Nat} (hu : u < 16 ^ width) {ds : List Char}
    (h : List.Forall₂ IsDigit ds (lastDigits width u)) : hexValue? ds = some u := by
  rw [hexValue?, foldlM_of_digits h, foldl_lastDigits hu]

def marks : List Char := ['%', '\\']

inductive UnitForm : Nat → List Char → Prop
  | mk {u mark digits} : mark ∈ marks → List.Forall₂ IsDigit digits (lastDigits 4 u) →
      UnitForm u (mark :: 'u' :: digits)

/-- The ways to write a character: itself unless it is a mark, a mark and two digits if it is below 256, or
each of its units escaped. -/
inductive Form : Char → List Char → Prop
  | itself {c} : c ∉ marks → Form c [c]
  | byte {c mark digits} : c.toNat < 0x100 → mark ∈ marks → List.Forall₂ IsDigit digits (lastDigits 2 c.toNat) →
      Form c (mark :: digits)
  | escaped {c escapes} : List.Forall₂ UnitForm (Utf16.units c) escapes → Form c escapes.flatten

/-- A text and a raw value in which each of its characters is written in some way. -/
inductive Written : List Char → List Char → Prop
  | nil : Written [] []
  | cons {c cs form raw} : Form c form → Written cs raw → Written (c :: cs) (form ++ raw)

theorem isMark_iff (c : Char) : isMark c = true ↔ c ∈ marks := by
  simp [isMark, marks]

theorem units_skip (ds rest : List Char) : units ds.length (ds ++ rest) = units 0 rest := by
  induction ds with
  | nil => rfl
  | cons d ds ih => rw [List.length_cons, List.cons_append, units, ih]

theorem units_escape {mark : Char} (hmark : mark ∈ marks) (body : List Char) {u : Nat} {rest : List Char}
    (hunit : unit? (body ++ rest) = some (u, body.length)) : units 0 (mark :: (body ++ rest)) = u :: units 0 rest := by
  rw [units, if_pos ((isMark_iff mark).mpr hmark), hunit]
  dsimp only
  rw [units_skip]

theorem UnitForm.units_append {u : Nat} (hu : u < 0x10000) {escape : List Char} (h : UnitForm u escape)
    (rest : List Char) : units 0 (escape ++ rest) = u :: units 0 rest := by
  cases h with
  | @mk mark digits hmark hdigits =>
    have hbound : u < 16 ^ 4 := hu
    have hvalue := hexValue?_of_digits hbound hdigits
    match digits, hdigits.length_eq with
    | [a, b, c, d], _ =>
      refine units_escape hmark ['u', a, b, c, d] ?_
      simp [unit?, hvalue]

theorem unit?_byte {a b : Char} {u : Nat} (ha : a ≠ 'u') (h : hexValue? [a, b] = some u) (rest : List Char) :
    unit? (a :: b :: rest) = some (u, 2) := by
  unfold unit?
  split
  · next heq => exact absurd (List.cons.inj heq).1 ha
  · next heq =>
    obtain ⟨rfl, hrest⟩ := List.cons.inj heq
    obtain ⟨rfl, _⟩ := List.cons.inj hrest
    rw [h, Option.map_some]
  · next hshort => exact absurd rfl (hshort a b rest)

theorem ne_u_of_isDigit {c : Char} {n : Nat} (h : IsDigit c n) : c ≠ 'u' := by
  rintro rfl
  cases hexDigit?_of_isDigit h

theorem units_append_of_forms {us : List Nat} (hus : ∀ u ∈ us, u < 0x10000) {escapes : List (List Char)}
    (h : List.Forall₂ UnitForm us escapes) (rest : List Char) :
    units 0 (escapes.flatten ++ rest) = us ++ units 0 rest := by
  induction h with
  | nil => rfl
  | cons hfirst _ ih =>
    obtain ⟨hu, hus⟩ := List.forall_mem_cons.mp hus
    rw [List.flatten_cons, List.append_assoc, hfirst.units_append hu, ih hus, List.cons_append]

theorem Form.units_append {c : Char} {form : List Char} (h : Form c form) (rest : List Char) :
    units 0 (form ++ rest) = Utf16.units c ++ units 0 rest := by
  cases h with
  | itself hc => rw [List.singleton_append, Escape.units, if_neg ((isMark_iff c).not.mpr hc)]
  | @byte mark digits hc hmark hdigits =>
    have hbound : c.toNat < 16 ^ 2 := hc
    have hvalue := hexValue?_of_digits hbound hdigits
    have hunits : Utf16.units c = [c.toNat] := if_pos (by omega)
    match digits, hdigits, hvalue with
    | [a, b], .cons ha _, hvalue =>
      rw [hunits, List.cons_append]
      exact units_escape hmark [a, b] (unit?_byte (ne_u_of_isDigit ha) hvalue rest)
  | escaped hescapes => exact units_append_of_forms (fun u => Utf16.units_lt) hescapes rest

theorem Written.units_eq {cs raw : List Char} (h : Written cs raw) : units 0 raw = cs.flatMap Utf16.units := by
  induction h with
  | nil => rfl
  | cons hform _ ih => rw [hform.units_append, ih, List.flatMap_cons]

theorem Written.itself {cs : List Char} (h : ∀ c ∈ cs, c ∉ marks) : Written cs cs := by
  induction cs with
  | nil => exact .nil
  | cons c cs ih =>
    obtain ⟨hc, hcs⟩ := List.forall_mem_cons.mp h
    exact .cons (.itself hc) (ih hcs)

theorem decode_unmarked {raw : String} (h : ∀ c ∈ raw.toList, c ∉ marks) : decode raw = raw := by
  rw [decode, (Written.itself h).units_eq, Utf16.decode_units, String.ofList_toList]

/-- However a text is written in a raw value, decoding gives it back. -/
theorem decode_written {s raw : String} (h : Written s.toList raw.toList) : decode raw = s := by
  rw [decode, h.units_eq, Utf16.decode_units, String.ofList_toList]

theorem mixed_text_written : Written "é😀%aA".toList "\\E9%ud83D\\uDE00%25a\\u0041".toList ∧
    decode "\\E9%ud83D\\uDE00%25a\\u0041" = "é😀%aA" := by
  have h : Written "é😀%aA".toList "\\E9%ud83D\\uDE00%25a\\u0041".toList := by
    have hbyte : Form 'é' ['\\', 'E', '9'] := .byte (by decide) (by decide) (by decide)
    have hhigh : UnitForm 0xD83D ['%', 'u', 'd', '8', '3', 'D'] := .mk (by decide) (by decide)
    have hlow : UnitForm 0xDE00 ['\\', 'u', 'D', 'E', '0', '0'] := .mk (by decide) (by decide)
    have hpair : Form '😀' _ := .escaped (.cons hhigh (.cons hlow .nil))
    have hmark : Form '%' ['%', '2', '5'] := .byte (by decide) (by decide) (by decide)
    have hitself : Form 'a' ['a'] := .itself (by decide)
    have hunit : UnitForm 0x41 ['\\', 'u', '0', '0', '4', '1'] := .mk (by decide) (by decide)
    have hletter : Form 'A' _ := .escaped (.cons hunit .nil)
    exact .cons hbyte (.cons hpair (.cons hmark (.cons hitself (.cons hletter .nil))))
  exact ⟨h, decode_written h⟩

end Gloss.Escape
