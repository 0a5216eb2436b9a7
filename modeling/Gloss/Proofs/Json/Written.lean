import Gloss.Json.Printer
import Gloss.Proofs.Json.Pieces

namespace Gloss.Json

open Grammar

namespace Text

theorem unit_run {ds : List Char} {u : Nat} (hlength : ds.length = 4) (hvalue : Escape.hexValue? ds = some u)
    (offset : Nat) (cs : List Char) : unit offset (ds ++ cs) = .ok u := by
  match ds, hlength with
  | [a, b, c, d], _ => simp [unit, hvalue]

theorem read_skip (before cs : List Char) (offset : Nat) :
    ∃ n, read before.length offset (before ++ cs) = read 0 n cs := by
  induction before generalizing offset with
  | nil => exact ⟨offset, rfl⟩
  | cons c before ih => exact ih _

theorem read_escape (before : List Char) {cs s rest : List Char} {d : Char} {offset : Nat}
    (hescape : escape (offset + 1) (before ++ cs) = .ok (d, before.length))
    (h : ∀ offset, ∃ n, read 0 offset cs = .ok (s, ⟨n, rest⟩)) :
    ∃ n, read 0 offset ('\\' :: (before ++ cs)) = .ok (d :: s, ⟨n, rest⟩) := by
  obtain ⟨m, hskip⟩ := read_skip before cs (offset + 1)
  obtain ⟨n, hread⟩ := h m
  refine ⟨n, ?_⟩
  rw [← hskip] at hread
  simp [read, hescape, hread, bind, Except.bind]

theorem read_of_spells {cs s rest : List Char} (h : Spells cs s rest) (offset : Nat) :
    ∃ n, read 0 offset cs = .ok (s, ⟨n, rest⟩) := by
  induction h generalizing offset with
  | close => exact ⟨offset + 1, rfl⟩
  | @itself c cs s rest hquote hslash hlow _ ih =>
    obtain ⟨n, hn⟩ := ih (offset + c.utf8Size)
    exact ⟨n, by simp [read, hquote, hslash, hlow, hn, bind, Except.bind]⟩
  | @named c d cs s rest hm _ ih =>
    refine read_escape [c] ?_ ih
    simp only [Text.named, List.mem_cons, Prod.mk.injEq, List.not_mem_nil, or_false] at hm
    rcases hm with ⟨rfl, rfl⟩ | ⟨rfl, rfl⟩ | ⟨rfl, rfl⟩ | ⟨rfl, rfl⟩ | ⟨rfl, rfl⟩ | ⟨rfl, rfl⟩ | ⟨rfl, rfl⟩ |
      ⟨rfl, rfl⟩ <;> rfl
  | @unit ds u cs s rest hlength hvalue hplain _ ih =>
    refine read_escape ('u' :: ds) ?_ ih
    obtain ⟨hhigh, hlow⟩ := Bool.or_eq_false_iff.mp hplain
    simp [escape, unit_run hlength hvalue, hhigh, hlow, hlength, bind, Except.bind]
  | @pair ds es u v cs s rest hlength hvalue hhigh hlength' hvalue' hlow _ ih =>
    have hnot : Utf16.isLow u = false := by
      simp only [Utf16.isHigh, Utf16.isLow, Bool.and_eq_true, Bool.and_eq_false_iff, decide_eq_true_eq,
        decide_eq_false_iff_not] at hhigh ⊢
      omega
    rw [show ds ++ '\\' :: 'u' :: (es ++ cs) = ds ++ '\\' :: 'u' :: es ++ cs by simp, ← List.cons_append]
    refine read_escape _ ?_ ih
    simp [escape, lowUnit, unit_run hlength hvalue, unit_run hlength' hvalue', hhigh, hlow, hnot, hlength, hlength',
      List.drop_left', bind, Except.bind]

theorem spells_encodeChar {cs s rest : List Char} (h : Spells cs s rest) (c : Char) :
    Spells (encodeChar c ++ cs) (c :: s) rest := by
  unfold encodeChar
  split
  · exact .named (by simp [named]) h
  · exact .named (by simp [named]) h
  · exact .named (by simp [named]) h
  · exact .named (by simp [named]) h
  · exact .named (by simp [named]) h
  · exact .named (by simp [named]) h
  · exact .named (by simp [named]) h
  · next hquote hslash _ _ _ _ _ =>
    split_ifs with hlow
    · have hlow : c.toNat < 32 := hlow
      have hvalue : ∀ n < 32, Escape.hexValue? ['0', '0', Nat.digitChar (n / 16), Nat.digitChar (n % 16)] = some n := by
        decide
      have hplain : Utf16.isSurrogate c.toNat = false := by
        simp [Utf16.isSurrogate, Utf16.isHigh, Utf16.isLow]
        omega
      have hunit : Spells ('\\' :: 'u' :: (['0', '0', Nat.digitChar (c.toNat / 16), Nat.digitChar (c.toNat % 16)] ++ cs))
        (Char.ofNat c.toNat :: s) rest := .unit rfl (hvalue c.toNat hlow) hplain h
      rwa [Char.ofNat_toNat] at hunit
    · exact .itself hquote hslash hlow h

theorem spells_encode (s rest : List Char) : Spells (encode s ++ '"' :: rest) s rest := by
  induction s with
  | nil => exact .close
  | cons c s ih =>
    rw [encode, List.flatMap_cons, List.append_assoc]
    exact spells_encodeChar ih c

theorem toList_render (s : String) (rest : List Char) :
    (render s).toList ++ rest = '"' :: (encode s.toList ++ '"' :: rest) := by
  simp [render]

end Text

theorem blanks_lineBreak (level : Nat) (rest : List Char) : Blanks ((lineBreak level).toList ++ rest) rest := by
  refine ⟨_, rfl, fun c hc => ?_⟩
  simp only [lineBreak, String.toList_append, String.toList_ofList, List.mem_append, List.mem_replicate] at hc
  rcases hc with hc | ⟨_, rfl⟩
  · obtain rfl : c = '\n' := by simpa using hc
    rfl
  · rfl

inductive Texts : (first : Bool) → List Char → List String → List Char → Prop
  | none {first cs rest} : Blanks cs (']' :: rest) → Texts first cs [] rest
  | more {first cs next s after stop ss rest} : Next first cs next → Blanks next ('"' :: after) →
      Spells after s.toList stop → Texts false stop ss rest → Texts first cs (s :: ss) rest

theorem Texts.after_comma {cs next rest : List Char} {s : String} {ss : List String}
    (h : Texts true next (s :: ss) rest) (hblanks : Blanks cs next) : Texts false (',' :: cs) (s :: ss) rest := by
  cases h with
  | more hnext hquote hspells hrest =>
    obtain rfl := hnext
    exact .more (.refl _) (hblanks.trans hquote) hspells hrest

theorem Texts.after_blanks {cs next rest : List Char} {ss : List String} (h : Texts true next ss rest)
    (hblanks : Blanks cs next) : Texts true cs ss rest := by
  cases h with
  | none hclose => exact .none (hblanks.trans hclose)
  | more hnext hquote hspells hrest =>
    obtain rfl := hnext
    exact .more rfl (hblanks.trans hquote) hspells hrest

theorem texts_intercalate (level : Nat) (s : String) (ss : List String) {close rest : List Char}
    (hclose : Blanks close (']' :: rest)) :
    Texts true ((("," ++ lineBreak level).intercalate ((s :: ss).map Text.render)).toList ++ close) (s :: ss) rest := by
  induction ss generalizing s with
  | nil =>
    rw [List.map_singleton, String.intercalate_singleton, Text.toList_render]
    exact .more rfl (.refl _) (Text.spells_encode ..) (.none hclose)
  | cons t ss ih =>
    simp only [List.map_cons, String.intercalate_cons_cons, String.toList_append, List.append_assoc] at ih ⊢
    rw [Text.toList_render]
    exact .more rfl (.refl _) (Text.spells_encode ..) ((ih t).after_comma (blanks_lineBreak ..))

theorem pretty_text (level : Nat) (s : String) : pretty level (.text s) = Text.render s := by simp [pretty, scalar]

theorem prettyItems_texts (level : Nat) (ss : List String) :
    prettyItems level (ss.map Json.text) = ss.map Text.render := by
  induction ss with
  | nil => rfl
  | cons s ss ih => simp [prettyItems, ih, pretty_text]

theorem texts_of_pretty (level : Nat) (ss : List String) (rest : List Char) :
    ∃ inside, (pretty level (.texts ss)).toList ++ rest = '[' :: inside ∧ Texts true inside ss rest := by
  rw [texts, pretty, prettyItems_texts, block]
  cases ss with
  | nil => exact ⟨']' :: rest, by simp, .none (.refl _)⟩
  | cons s ss =>
    have htexts := texts_intercalate (level + 1) s ss (blanks_lineBreak level (']' :: rest))
    refine ⟨_, ?_, htexts.after_blanks (blanks_lineBreak (level + 1) _)⟩
    simp

theorem Texts.length_le {first : Bool} {cs rest : List Char} {ss : List String} (h : Texts first cs ss rest) :
    ss.length ≤ cs.length := by
  induction h with
  | none => exact Nat.zero_le _
  | more hnext hquote hspells _ ih =>
    have hbegin := hnext.length_le
    have hlength := hquote.length_le
    have hafter := hspells.quoted.length_lt
    simp only [List.length_cons] at *
    omega

namespace Reader

variable {α β : Type} {cs middle rest : List Char}

/-- From a text a reader reads a value and leaves a rest, wherever the text stands. -/
def Reads (reader : Reader α) (cs : List Char) (x : α) (rest : List Char) : Prop :=
  ∀ offset, ∃ n, reader ⟨offset, cs⟩ = .ok (x, ⟨n, rest⟩)

theorem reads_pure (x : α) (cs : List Char) : Reads (pure x) cs x cs := fun offset => ⟨offset, rfl⟩

theorem Reads.bind {reader : Reader α} {next : α → Reader β} {x : α} {y : β} (h : Reads reader cs x middle)
    (hnext : Reads (next x) middle y rest) : Reads (reader >>= next) cs y rest := by
  intro offset
  obtain ⟨m, hm⟩ := h offset
  obtain ⟨n, hn⟩ := hnext m
  exact ⟨n, bind_eq_ok.mpr ⟨x, _, hm, hn⟩⟩

theorem reads_skip (d : Char) (cs : List Char) : Reads skip (d :: cs) () cs := fun _ => ⟨_, rfl⟩

theorem reads_blanks {d : Char} (h : Blanks cs (d :: rest)) (hd : isBlank d = false) :
    Reads blanks cs (some d) (d :: rest) := by
  refine fun offset => ⟨_, blanks_run h (fun e he => ?_) offset⟩
  obtain rfl := Option.some.inj he
  exact hd

theorem reads_name {s : String} (h : Spells cs s.toList rest) : Reads name ('"' :: cs) s rest := by
  refine (reads_skip _ _).bind fun offset => ?_
  obtain ⟨n, hn⟩ := Text.read_of_spells h offset
  refine ⟨n, bind_eq_ok.mpr ⟨⟨offset, cs⟩, _, rfl, ?_⟩⟩
  simp only [hn, String.ofList_toList]
  rfl

theorem reads_colon (h : Blanks cs (':' :: rest)) : Reads colon cs () rest :=
  (reads_blanks h rfl).bind (reads_skip _ _)

theorem reads_hasItem {first : Bool} {next after : List Char} (hnext : Next first cs next)
    (hquote : Blanks next ('"' :: after)) : Reads (hasItem first) cs true ('"' :: after) := by
  cases first with
  | true =>
    obtain rfl := hnext
    exact (reads_blanks hquote rfl).bind (reads_pure _ _)
  | false => exact (reads_blanks hnext rfl).bind ((reads_skip _ _).bind ((reads_blanks hquote rfl).bind (reads_pure _ _)))

theorem reads_lastItem (first : Bool) (h : Blanks cs (']' :: rest)) : Reads (hasItem first) cs false (']' :: rest) :=
  (reads_blanks h rfl).bind (reads_pure _ _)

theorem reads_closeList (h : Blanks cs (']' :: rest)) : Reads closeList cs () rest :=
  (reads_blanks h rfl).bind (reads_skip _ _)

theorem reads_hasMember {first : Bool} {next after : List Char} (hnext : Next first cs next)
    (hquote : Blanks next ('"' :: after)) : Reads (hasMember first) cs true ('"' :: after) := by
  cases first with
  | true =>
    obtain rfl := hnext
    exact (reads_blanks hquote rfl).bind (reads_pure _ _)
  | false => exact (reads_blanks hnext rfl).bind ((reads_skip _ _).bind ((reads_blanks hquote rfl).bind (reads_pure _ _)))

theorem reads_lastMember (first : Bool) (h : Blanks cs ('\x7d' :: rest)) :
    Reads (hasMember first) cs false ('\x7d' :: rest) :=
  (reads_blanks h rfl).bind (reads_pure _ _)

theorem reads_closeObject (h : Blanks cs ('\x7d' :: rest)) : Reads closeObject cs () rest :=
  (reads_blanks h rfl).bind (reads_skip _ _)

theorem reads_items {item : Reader String} (hitem : ∀ {cs s rest}, Spells cs s.toList rest → Reads item ('"' :: cs) s rest)
    {first : Bool} {ss : List String} (h : Texts first cs ss rest) {bound : Nat} (hbound : ss.length < bound) :
    Reads (items item bound first) cs ss (']' :: rest) := by
  induction h generalizing bound with
  | none hclose =>
    obtain ⟨bound, rfl⟩ := Nat.exists_eq_add_one_of_ne_zero (Nat.ne_of_gt hbound)
    exact (reads_lastItem _ hclose).bind (reads_pure _ _)
  | more hnext hquote hspells _ ih =>
    obtain ⟨bound, rfl⟩ := Nat.exists_eq_add_one_of_ne_zero (Nat.ne_of_gt ((Nat.zero_le _).trans_lt hbound))
    refine (reads_hasItem hnext hquote).bind ((hitem hspells).bind ?_)
    exact (ih (Nat.lt_of_succ_lt_succ hbound)).bind (reads_pure _ _)

theorem reads_list {item : Reader String} (hitem : ∀ {cs s rest}, Spells cs s.toList rest → Reads item ('"' :: cs) s rest)
    {ss : List String} (h : Texts true cs ss rest) {bound : Nat} (hbound : ss.length < bound) :
    Reads (list bound item) cs ss rest :=
  (reads_items hitem h hbound).bind ((reads_closeList (.refl _)).bind (reads_pure _ _))

theorem run_of_reads {reader : Nat → Reader α} {text : String} {x : α}
    (h : Reads (reader (text.toList.length + 1)) text.toList x []) : run reader text = .ok x := by
  have hend : Reads blanks [] none [] := fun offset => ⟨_, blanks_run (.refl []) (by simp) offset⟩
  have hwhole : Reads (whole (reader (text.toList.length + 1))) text.toList x [] := h.bind (hend.bind (reads_pure x []))
  obtain ⟨n, hn⟩ := hwhole 0
  simp only [run, hn]

end Reader

end Gloss.Json
