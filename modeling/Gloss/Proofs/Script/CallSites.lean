import Gloss.Proofs.Script.Keys
import Gloss.Proofs.Script.Quotation

namespace Gloss.Script

theorem withoutMark_split (cs : List Char) :
    ∃ mark, cs = mark ++ (withoutMark cs).1 ∧ byteLength mark = (withoutMark cs).2 := by
  fun_cases withoutMark cs with
  | case1 cs => exact ⟨[byteOrderMark], rfl, rfl⟩
  | case2 => exact ⟨[], rfl, rfl⟩
  | case3 => exact ⟨[], rfl, rfl⟩

theorem Cursor.offset_advance {source : List Char} (c : Cursor source) (n : Nat) :
    (c.advance n).offset = c.offset + byteLength (c.rest.take n) := rfl

namespace Literal

theorem IsIn.spelled {source : List Char} {l : Literal} (h : l.IsIn source) :
    ∃ before quote body after us, source = before ++ quote :: (body ++ quote :: after) ∧ (quote = '"' ∨ quote = '\'') ∧
      l.start = byteLength before ∧ l.stop = byteLength (before ++ quote :: (body ++ [quote])) ∧ Spells quote body us ∧
      l.value = (Utf16.decode? us).map String.ofList := by
  obtain ⟨c, n, hread, hstart, hstop⟩ := h
  obtain ⟨before, hsource, hoffset⟩ := c.aligned
  obtain ⟨quote, body, after, us, hrest, hquote, rfl, hspells, hvalue⟩ := Token.read?_text hread
  refine ⟨before, quote, body, after, us, by rw [hsource, hrest], hquote, by rw [hstart, hoffset], ?_, hspells, hvalue⟩
  have htake : c.rest.take (body.length + 2) = quote :: (body ++ [quote]) := by
    rw [hrest, List.take_succ_cons, List.take_append]
    simp
  rw [hstop, Cursor.offset_advance, htake, hoffset, byteLength_append]

theorem IsIn.width {source : List Char} {l : Literal} (h : l.IsIn source) : l.start + 2 ≤ l.stop := by
  obtain ⟨before, quote, body, _, _, _, _, hstart, hstop, _⟩ := h.spelled
  have hpos := quote.utf8Size_pos
  simp only [byteLength_append, byteLength_cons, byteLength_nil] at hstop
  omega

end Literal

/-- The quoted texts of a tree stand one after another in the source. -/
structure Parser.KeepsOrder (parser : Parser) : Prop where
  width {language : Language} {source : List Char} {t : Tree} :
    parser language source = some t → ∀ l ∈ t.literals, l.start < l.stop
  apart {language : Language} {source : List Char} {t : Tree} :
    parser language source = some t → t.literals.Pairwise (·.stop ≤ ·.start)

theorem parse?_keepsOrder : Parser.KeepsOrder parse? where
  width h l hl := by
    obtain ⟨_, hsound⟩ := literals_sound h
    have hwidth := (hsound.found l hl).width
    omega
  apart h := by
    obtain ⟨_, hsound⟩ := literals_sound h
    exact hsound.apart

namespace CallSite

structure IsAnchored (document : String) (site : CallSite) : Prop where
  quoted : ∃ before quote body after, document.toList = before ++ quote :: (body ++ quote :: after) ∧
    (quote = '"' ∨ quote = '\'') ∧ site.start = byteLength before ∧
    site.stop = byteLength (before ++ quote :: (body ++ [quote])) ∧ Spells quote body (site.key.toList.flatMap Utf16.units)
  width : site.start + 2 ≤ site.stop
  within : site.stop ≤ document.utf8ByteSize
  startsCharacter : (⟨site.start⟩ : String.Pos.Raw).IsValid document
  stopsCharacter : (⟨site.stop⟩ : String.Pos.Raw).IsValid document
  position : site.stopPosition = (LineIndex.ofText document.toList).position site.stop

theorem mem_scanBy {parser : Parser} {visitor : Visitor} {document function : String} {language : Language} {site : CallSite}
    (h : site ∈ scanBy parser visitor document function language) :
    ∃ t l, parser language (withoutMark document.toList).1 = some t ∧ l ∈ t.keysOfCalls visitor function ∧
      site = .ofLiteral (LineIndex.ofText document.toList) (withoutMark document.toList).2 l := by
  unfold scanBy at h
  cases ht : parser language (withoutMark document.toList).1 with
  | none => simp [ht] at h
  | some t =>
    simp only [ht, List.mem_map] at h
    obtain ⟨l, hl, rfl⟩ := h
    exact ⟨t, l, rfl, hl, rfl⟩

theorem isAnchored_ofLiteral {document : String} {l : Literal} (h : l.IsIn (withoutMark document.toList).1)
    (hvalue : l.value.isSome = true) :
    (ofLiteral (LineIndex.ofText document.toList) (withoutMark document.toList).2 l).IsAnchored document := by
  obtain ⟨mark, hdocument, hmark⟩ := withoutMark_split document.toList
  obtain ⟨before, quote, body, after, us, hsource, hquote, hstart, hstop, hspells, hunits⟩ := h.spelled
  have hwhole : document.toList = (mark ++ before) ++ quote :: (body ++ quote :: after) := by
    rw [hdocument, hsource, List.append_assoc]
  have hends : document.toList = (mark ++ before ++ quote :: (body ++ [quote])) ++ after := by
    rw [hwhole]
    simp
  have hfirst : (withoutMark document.toList).2 + l.start = byteLength (mark ++ before) := by
    rw [← hmark, hstart, byteLength_append]
  have hlast : (withoutMark document.toList).2 + l.stop = byteLength (mark ++ before ++ quote :: (body ++ [quote])) := by
    rw [← hmark, hstop, List.append_assoc, byteLength_append mark]
  obtain ⟨cs, hcs⟩ : ∃ cs, Utf16.decode? us = some cs := by
    rw [hunits] at hvalue
    simpa [Option.isSome_iff_exists] using hvalue
  have hkey : (l.value.getD "").toList.flatMap Utf16.units = us := by
    rw [hunits, hcs, Option.map_some, Option.getD_some, String.toList_ofList]
    exact Utf16.units_of_decode? hcs hspells.lt
  have hwidth := h.width
  refine ⟨⟨mark ++ before, quote, body, after, hwhole, hquote, hfirst, hlast, ?_⟩, ?_, ?_, ?_, ?_, rfl⟩
  · rw [ofLiteral, hkey]
    exact hspells
  · simp only [ofLiteral]
    omega
  · have hsize := congrArg byteLength hends
    rw [byteLength_toList, byteLength_append, ← hlast] at hsize
    simp only [ofLiteral]
    omega
  · rw [ofLiteral, hfirst]
    exact isValid_iff_byteLength.mpr ⟨_, _, hwhole, rfl⟩
  · rw [ofLiteral, hlast]
    exact isValid_iff_byteLength.mpr ⟨_, _, hends, rfl⟩

theorem isAnchored_of_mem {document function : String} {language : Language} {site : CallSite}
    (h : site ∈ scan document function language) : site.IsAnchored document := by
  obtain ⟨t, l, ht, hl, rfl⟩ := mem_scanBy h
  obtain ⟨_, hsound⟩ := literals_sound ht
  refine isAnchored_ofLiteral (hsound.found l ((t.keysOfCalls_subperm .byFields function).subset hl)) ?_
  rw [Tree.keysOfCalls_eq] at hl
  obtain ⟨⟨place, _⟩, hcall, rfl⟩ := List.mem_map.mp hl
  obtain ⟨_, _, _, hvalue⟩ := (t.mem_calls .byFields function place _).mp hcall
  exact hvalue

theorem scanBy_apart {parser : Parser} (hparser : parser.KeepsOrder) (visitor : Visitor) (document function : String)
    (language : Language) :
    (scanBy parser visitor document function language).Pairwise fun a b => a.stop ≤ b.start ∨ b.stop ≤ a.start := by
  unfold scanBy
  cases ht : parser language (withoutMark document.toList).1 with
  | none => simp [ht]
  | some t =>
    obtain ⟨ls, hperm, hsublist⟩ := t.keysOfCalls_subperm visitor function
    have hapart : ls.Pairwise fun a b => a.stop ≤ b.start ∨ b.stop ≤ a.start :=
      ((hparser.apart ht).sublist hsublist).imp fun hab => Or.inl hab
    simp only [ht]
    rw [List.pairwise_map]
    refine ((hperm.pairwise_iff fun hab => hab.symm).mp hapart).imp ?_
    intro a b hab
    simpa [ofLiteral] using hab

end CallSite

/-- Each call site is anchored at its key in the document, and the sites do not overlap. -/
theorem scan_anchored (document function : String) (language : Language) :
    (∀ site ∈ CallSite.scan document function language, site.IsAnchored document) ∧
      (CallSite.scan document function language).Pairwise fun a b => a.stop ≤ b.start ∨ b.stop ≤ a.start :=
  ⟨fun _ hsite => CallSite.isAnchored_of_mem hsite, CallSite.scanBy_apart parse?_keepsOrder .byFields document function language⟩

end Gloss.Script
