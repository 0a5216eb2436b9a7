import Gloss.Script.Token
import Gloss.Proofs.Escape.Spelling

namespace Gloss.Script

open Gloss.Escape (hexDigit? hexValue? isDigit_of_hexDigit?)

inductive Hex : List Char → Nat → Prop
  | nil : Hex [] 0
  | concat {ds d v n} : Hex ds v → hexDigit? d = some n → Hex (ds ++ [d]) (16 * v + n)

def controls : List (Char × Nat) := [('0', 0), ('b', 8), ('t', 9), ('n', 10), ('v', 11), ('f', 12), ('r', 13)]

inductive Escaped : List Char → List Nat → Prop
  | carriage : Escaped ['\r', '\n'] []
  | lineBreak {c} : isLineBreak c = true → Escaped [c] []
  | control {c u} : (c, u) ∈ controls → Escaped [c] [u]
  | byte {a b v} : Hex [a, b] v → Escaped ['x', a, b] [v]
  | unit {a b c d v} : Hex [a, b, c, d] v → Escaped ['u', a, b, c, d] [v]
  | codePoint {ds v} : ds ≠ [] → Hex ds v → v ≤ 0x10FFFF → Escaped ('u' :: '\x7b' :: (ds ++ ['\x7d'])) (Token.codeUnits v)
  | itself {c} : isLineBreak c = false → isOctalDigit c = false → c ∉ ['x', 'u', 'b', 't', 'n', 'v', 'f', 'r'] →
      Escaped [c] (Utf16.units c)

/-- A text between two quotes and the units that it spells. No octal digit follows an escaped `0`. -/
inductive Spells (quote : Char) : List Char → List Nat → Prop
  | nil : Spells quote [] []
  | char {c cs us} : c ≠ quote → c ≠ '\\' → c ≠ '\n' → c ≠ '\r' → Spells quote cs us →
      Spells quote (c :: cs) (Utf16.units c ++ us)
  | escape {e cs us vs} : Escaped e us → (e = ['0'] → cs.head?.any isOctalDigit = false) → Spells quote cs vs →
      Spells quote ('\\' :: (e ++ cs)) (us ++ vs)

theorem hexDigit?_lt {d : Char} {n : Nat} (h : hexDigit? d = some n) : n < 16 := by
  rcases isDigit_of_hexDigit? h with h | h
  · exact (List.getElem?_eq_some_iff.mp h).1
  · exact (List.getElem?_eq_some_iff.mp h).1

theorem Hex.lt {ds : List Char} {v : Nat} (h : Hex ds v) : v < 16 ^ ds.length := by
  induction h with
  | nil => simp
  | concat _ hd ih =>
    have hn := hexDigit?_lt hd
    rw [List.length_append, List.length_singleton, Nat.pow_succ]
    omega

theorem Hex.of_hexValue? {ds : List Char} {v : Nat} (h : hexValue? ds = some v) : Hex ds v := by
  induction ds using List.reverseRecOn generalizing v with
  | nil =>
    obtain rfl := Option.some.inj h
    exact .nil
  | append_singleton ds d ih =>
    rw [hexValue?, List.foldlM_append] at h
    obtain ⟨w, hw, h⟩ := Option.bind_eq_some_iff.mp h
    simp only [List.foldlM_cons, List.foldlM_nil] at h
    obtain ⟨_, hv, hpure⟩ := Option.bind_eq_some_iff.mp h
    obtain rfl := Option.some.inj hpure
    obtain ⟨n, hn, rfl⟩ := Option.map_eq_some_iff.mp hv
    exact .concat (ih hw) hn

theorem codeUnits_lt {v u : Nat} (h : u ∈ Token.codeUnits v) : u < 0x10000 := by
  unfold Token.codeUnits at h
  split at h
  · obtain rfl := List.mem_singleton.mp h
    assumption
  · exact Utf16.units_lt h

theorem Escaped.lt {e : List Char} {us : List Nat} (h : Escaped e us) : ∀ u ∈ us, u < 0x10000 := by
  cases h with
  | carriage => simp
  | lineBreak => simp
  | control hc =>
    simp only [controls, List.mem_cons, List.not_mem_nil, Prod.mk.injEq, or_false] at hc
    simp only [List.mem_singleton, forall_eq]
    omega
  | byte hv =>
    have := hv.lt
    simp only [List.mem_singleton, forall_eq]
    simp at this
    omega
  | unit hv =>
    have := hv.lt
    simp only [List.mem_singleton, forall_eq]
    simpa using this
  | codePoint => exact fun u => codeUnits_lt
  | itself => exact fun u => Utf16.units_lt

theorem Spells.lt {quote : Char} {cs : List Char} {us : List Nat} (h : Spells quote cs us) : ∀ u ∈ us, u < 0x10000 := by
  induction h with
  | nil => simp
  | char _ _ _ _ _ ih => exact List.forall_mem_append.mpr ⟨fun u => Utf16.units_lt, ih⟩
  | escape he _ _ ih => exact List.forall_mem_append.mpr ⟨he.lt, ih⟩

namespace Token

theorem braced_spells {cs : List Char} {v n w m : Nat} (h : braced cs v n = some (w, m)) {before : List Char} (hv : Hex before v)
    (hn : before.length = n) (hle : v ≤ 0x10FFFF) :
    ∃ ds rest, cs = ds ++ '\x7d' :: rest ∧ m = n + ds.length + 1 ∧ before ++ ds ≠ [] ∧ Hex (before ++ ds) w ∧ w ≤ 0x10FFFF := by
  induction cs generalizing v n before with
  | nil => cases h
  | cons c cs ih =>
    rw [braced] at h
    split at h
    · next hc =>
      split at h
      · cases h
      · next hpos =>
        obtain ⟨rfl, rfl⟩ := Prod.mk.inj (Option.some.inj h)
        refine ⟨[], cs, by rw [hc, List.nil_append], by simp, ?_, by simpa using hv, hle⟩
        rintro hnil
        simp only [List.append_nil] at hnil
        exact hpos (by rw [← hn, hnil, List.length_nil])
    · obtain ⟨d, hd, h⟩ := Option.bind_eq_some_iff.mp h
      split at h
      · next hbound =>
        obtain ⟨ds, rest, rfl, hm, hne, hw, hwle⟩ := ih h (hv.concat hd) (by simp [hn]) hbound
        rw [List.append_assoc, List.singleton_append] at hne hw
        refine ⟨c :: ds, rest, rfl, ?_, hne, hw, hwle⟩
        rw [hm, List.length_cons]
        omega
      · cases h

theorem codePoint?_spells {cs : List Char} {v n : Nat} (h : codePoint? cs = some (v, n)) :
    ∃ e rest, cs = e ++ rest ∧ e.length = n ∧ Escaped e (codeUnits v) := by
  unfold codePoint? at h
  split at h
  · next cs =>
    obtain ⟨⟨w, m⟩, hb, hp⟩ := Option.map_eq_some_iff.mp h
    obtain ⟨rfl, rfl⟩ := Prod.mk.inj hp
    obtain ⟨ds, rest, rfl, hm, hne, hv, hle⟩ := braced_spells hb .nil rfl (Nat.zero_le _)
    refine ⟨'u' :: '\x7b' :: (ds ++ ['\x7d']), rest, by simp, ?_, .codePoint hne hv hle⟩
    simp [hm]
  · next a b c d rest _ =>
    obtain ⟨w, hw, hp⟩ := Option.map_eq_some_iff.mp h
    obtain ⟨rfl, rfl⟩ := Prod.mk.inj hp
    have hv := Hex.of_hexValue? hw
    have hlt : w < 0x10000 := by simpa using hv.lt
    refine ⟨['u', a, b, c, d], rest, rfl, rfl, ?_⟩
    rw [codeUnits, if_pos hlt]
    exact .unit hv
  · cases h

theorem escape?_spells {cs : List Char} {us : List Nat} {n : Nat} : escape? cs = some (us, n) →
    ∃ e rest, cs = e ++ rest ∧ e.length = n ∧ Escaped e us ∧ (e = ['0'] → rest.head?.any isOctalDigit = false) := by
  have letter : ∀ {c : Char} {u : Nat} {rest : List Char}, (c, u) ∈ controls → c ≠ '0' → some ([u], 1) = some (us, n) →
      ∃ e r, c :: rest = e ++ r ∧ e.length = n ∧ Escaped e us ∧ (e = ['0'] → r.head?.any isOctalDigit = false) := by
    intro c u rest hc hzero h
    obtain ⟨rfl, rfl⟩ := Prod.mk.inj (Option.some.inj h)
    exact ⟨[c], rest, rfl, rfl, .control hc, fun he => absurd (List.singleton_injective he) hzero⟩
  fun_cases escape? cs with
  | case1 => exact nofun
  | case2 rest =>
    intro h
    obtain ⟨rfl, rfl⟩ := Prod.mk.inj (Option.some.inj h)
    exact ⟨['\r', '\n'], rest, rfl, rfl, .carriage, by simp⟩
  | case3 a b rest =>
    intro h
    obtain ⟨v, hv, hp⟩ := Option.map_eq_some_iff.mp h
    obtain ⟨rfl, rfl⟩ := Prod.mk.inj hp
    exact ⟨['x', a, b], rest, rfl, rfl, .byte (.of_hexValue? hv), by simp⟩
  | case4 => exact nofun
  | case5 d rest hd =>
    intro h
    obtain ⟨rfl, rfl⟩ := Prod.mk.inj (Option.some.inj h)
    exact ⟨['0'], d :: rest, rfl, rfl, .control (by decide), fun _ => by simpa using hd⟩
  | case6 rest =>
    intro h
    obtain ⟨⟨v, m⟩, hv, hp⟩ := Option.map_eq_some_iff.mp h
    obtain ⟨rfl, rfl⟩ := Prod.mk.inj hp
    obtain ⟨e, rest, hcs, hlen, he⟩ := codePoint?_spells hv
    refine ⟨e, rest, hcs, hlen, he, ?_⟩
    rintro rfl
    cases hcs
  | case7 c rest _ _ _ _ hbreak =>
    intro h
    obtain ⟨rfl, rfl⟩ := Prod.mk.inj (Option.some.inj h)
    refine ⟨[c], rest, rfl, rfl, .lineBreak hbreak, ?_⟩
    intro he
    rw [List.singleton_injective he] at hbreak
    cases hbreak
  | case8 => exact nofun
  | case9 rest _ _ hzero =>
    intro h
    obtain ⟨rfl, rfl⟩ := Prod.mk.inj (Option.some.inj h)
    refine ⟨['0'], rest, rfl, rfl, .control (by decide), fun _ => ?_⟩
    cases rest with
    | nil => rfl
    | cons d rest => exact (hzero d rest rfl rfl).elim
  | case10 => exact letter (by decide) (by decide)
  | case11 => exact letter (by decide) (by decide)
  | case12 => exact letter (by decide) (by decide)
  | case13 => exact letter (by decide) (by decide)
  | case14 => exact letter (by decide) (by decide)
  | case15 => exact letter (by decide) (by decide)
  | case16 => exact nofun
  | case17 rest c hx hzero hn ht hr hb hv hf hdigit _ _ _ hu hbreak =>
    intro h
    obtain ⟨rfl, rfl⟩ := Prod.mk.inj (Option.some.inj h)
    have hc : c ∉ ['x', 'u', 'b', 't', 'n', 'v', 'f', 'r'] := by
      simp only [List.mem_cons, List.not_mem_nil, or_false, not_or]
      exact ⟨hx, hu, hb, ht, hn, hv, hf, hr⟩
    exact ⟨[c], rest, rfl, rfl, .itself (by simpa using hbreak) (by simpa using hdigit) hc,
      fun he => absurd (List.singleton_injective he) hzero⟩

theorem quoted_spells {quote : Char} {skip : Nat} {cs : List Char} {us : List Nat} {n : Nat}
    (h : quoted quote skip cs = some (us, n)) :
    ∃ skipped body rest, cs = skipped ++ body ++ quote :: rest ∧ skipped.length = skip ∧ n = skip + body.length + 1 ∧
      Spells quote body us := by
  induction cs generalizing skip us n with
  | nil =>
    cases skip with
    | zero => cases h
    | succ skip => cases h
  | cons c cs ih =>
    cases skip with
    | succ skip =>
      rw [quoted] at h
      obtain ⟨⟨vs, m⟩, hq, hp⟩ := Option.map_eq_some_iff.mp h
      obtain ⟨rfl, rfl⟩ := Prod.mk.inj hp
      obtain ⟨skipped, body, rest, rfl, rfl, rfl, hbody⟩ := ih hq
      exact ⟨c :: skipped, body, rest, rfl, rfl, by omega, hbody⟩
    | zero =>
      rw [quoted] at h
      split at h
      · next hc =>
        obtain ⟨rfl, rfl⟩ := Prod.mk.inj (Option.some.inj h)
        exact ⟨[], [], cs, by rw [hc]; rfl, rfl, rfl, .nil⟩
      · next hquote =>
        split at h
        · next hc =>
          obtain ⟨⟨es, k⟩, hescape, h⟩ := Option.bind_eq_some_iff.mp h
          obtain ⟨⟨vs, m⟩, hq, hp⟩ := Option.map_eq_some_iff.mp h
          obtain ⟨rfl, rfl⟩ := Prod.mk.inj hp
          obtain ⟨e, after, hcs, hlen, he, hzero⟩ := escape?_spells hescape
          obtain ⟨skipped, body, rest, hrest, hskip, rfl, hbody⟩ := ih hq
          -- the characters that the rest of the text skips are those of the escape
          rw [List.append_assoc] at hrest
          obtain ⟨rfl, rfl⟩ := List.append_inj (hcs.symm.trans hrest) (hlen.trans hskip.symm)
          refine ⟨[], '\\' :: (e ++ body), rest, by simp [hc, hrest], rfl, ?_, .escape he ?_ hbody⟩
          · rw [List.length_cons, List.length_append, hskip]
            omega
          · intro h0
            have hhead := hzero h0
            cases body with
            | nil => rfl
            | cons d body => exact hhead
        · next hslash =>
          split at h
          · cases h
          · next hbreak =>
            obtain ⟨⟨vs, m⟩, hq, hp⟩ := Option.map_eq_some_iff.mp h
            obtain ⟨rfl, rfl⟩ := Prod.mk.inj hp
            obtain ⟨skipped, body, rest, rfl, hskip, rfl, hbody⟩ := ih hq
            obtain rfl := List.length_eq_zero_iff.mp hskip
            obtain ⟨hn, hr⟩ := not_or.mp hbreak
            exact ⟨[], c :: body, rest, rfl, rfl, by rw [List.length_cons]; omega, .char hquote hslash hn hr hbody⟩

theorem fraction_token {n : Nat} {rest : List Char} {t : Token} {m : Nat} (h : fraction n rest = some (t, m)) : t = .number := by
  obtain ⟨k, _, h⟩ := Option.bind_eq_some_iff.mp h
  obtain ⟨e, _, h⟩ := Option.map_eq_some_iff.mp h
  exact (Prod.mk.inj h).1.symm

theorem withSuffix_token (n : Nat) (rest : List Char) : ∀ v, (withSuffix n rest).1 ≠ .text v := by
  unfold withSuffix
  split <;> simp

theorem bareNumber?_token {cs : List Char} {t : Token} {n : Nat} : bareNumber? cs = some (t, n) → ∀ v, t ≠ .text v := by
  have hfraction : ∀ {k rest}, fraction k rest = some (t, n) → ∀ v, t ≠ .text v := by
    intro k rest h v
    rw [fraction_token h]
    exact nofun
  have hexponent : ∀ {k cs}, (exponent cs).map (fun e => (Token.number, k + e)) = some (t, n) → ∀ v, t ≠ .text v := by
    intro k cs h v
    obtain ⟨e, _, hp⟩ := Option.map_eq_some_iff.mp h
    rw [← (Prod.mk.inj hp).1]
    exact nofun
  have hbig : ∀ {m : Nat}, some (Token.bigNumber, m) = some (t, n) → ∀ v, t ≠ .text v := by
    intro m h v
    rw [← (Prod.mk.inj (Option.some.inj h)).1]
    exact nofun
  fun_cases bareNumber? cs with
  | case1 rest => exact hfraction
  | case2 c rest p _ =>
    intro h v
    obtain ⟨k, _, hp⟩ := Option.map_eq_some_iff.mp h
    rw [← (Prod.mk.inj hp).1]
    exact withSuffix_token _ _ v
  | case3 => exact nofun
  | case4 rest => exact hfraction
  | case5 => exact hbig
  | case6 c rest => exact hexponent
  | case7 =>
    intro h
    obtain ⟨k, _, h⟩ := Option.bind_eq_some_iff.mp h
    split at h
    · exact hfraction h
    · split at h
      · exact hbig h
      · exact hexponent h

theorem number?_token {cs : List Char} {t : Token} {n : Nat} (h : number? cs = some (t, n)) : ∀ v, t ≠ .text v := by
  obtain ⟨⟨u, m⟩, hb, h⟩ := Option.bind_eq_some_iff.mp h
  dsimp only at h
  split at h
  · cases h
  · obtain ⟨rfl, rfl⟩ := Prod.mk.inj (Option.some.inj h)
    exact bareNumber?_token hb

theorem sign?_token {cs : List Char} {t : Token} {n : Nat} (h : sign? cs = some (t, n)) : ∀ v, t ≠ .text v := by
  have hsign : ∀ {s : String} {m : Nat}, some (Token.sign s, m) = some (t, n) → ∀ v, t ≠ .text v := by
    intro s m h v
    rw [← (Prod.mk.inj (Option.some.inj h)).1]
    exact nofun
  unfold sign? at h
  split at h
  · cases h
  · split at h
    · exact hsign h
    · exact hsign h
  · exact hsign h
  · split at h
    · exact hsign h
    · obtain ⟨c, _, h⟩ := Option.bind_eq_some_iff.mp h
      split at h
      · exact hsign h
      · cases h

theorem read?_text {cs : List Char} {v : Option String} {n : Nat} (h : read? cs = some (.text v, n)) :
    ∃ quote body rest us, cs = quote :: (body ++ quote :: rest) ∧ (quote = '"' ∨ quote = '\'') ∧ n = body.length + 2 ∧
      Spells quote body us ∧ v = (Utf16.decode? us).map String.ofList := by
  cases cs with
  | nil => cases h
  | cons c rest =>
    rw [read?] at h
    split at h
    · next hc =>
      obtain ⟨⟨us, m⟩, hq, hp⟩ := Option.map_eq_some_iff.mp h
      obtain ⟨hv, rfl⟩ := Prod.mk.inj hp
      obtain ⟨skipped, body, after, rfl, hskip, rfl, hbody⟩ := quoted_spells hq
      obtain rfl := List.length_eq_zero_iff.mp hskip
      exact ⟨c, body, after, us, rfl, hc, by simp, hbody, (Token.text.inj hv).symm⟩
    · split at h
      · obtain ⟨_, _, hp⟩ := Option.map_eq_some_iff.mp h
        cases (Prod.mk.inj hp).1
      · split at h
        · obtain ⟨_, _, hp⟩ := Option.map_eq_some_iff.mp h
          cases (Prod.mk.inj hp).1
        · split at h
          · exact absurd rfl (number?_token h v)
          · exact absurd rfl (sign?_token h v)

end Token

end Gloss.Script
