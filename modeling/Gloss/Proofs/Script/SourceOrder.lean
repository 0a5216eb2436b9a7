import Gloss.Engine
import Gloss.Proofs.Dictionary.Layers
import Gloss.Proofs.Script.CallSites

/-!
The order of call sites. A walk that comes to the later of two children first leaves the order of the source
just when it finds calls below both.
-/

namespace Gloss.Script

namespace Tree

section

variable (visitor : Visitor) (function : String)

/-- A walk that comes to a node finds the calls at and below it in the order of the source: of two children
that it meets in the contrary order, not both have calls below them, and no call is below a child before the
arguments of the node, if it is a call with a key of its own. -/
structure InOrder (k : Kind) (cs : List Tree) : Prop where
  children : (visitor.order k cs).Pairwise fun i j => j < i →
    keysAt visitor function cs i = [] ∨ keysAt visitor function cs j = []
  own : (keyOfCall? function (node k cs)).isSome = true → ∀ c ∈ cs.dropLast, c.keysOfCalls visitor function = []

inductive MeetsInOrder : Tree → Prop
  | word (name : String) : MeetsInOrder (word name)
  | text (l : Literal) : MeetsInOrder (text l)
  | node {k : Kind} {cs : List Tree} : InOrder visitor function k cs → (∀ c ∈ cs, MeetsInOrder c) →
      MeetsInOrder (node k cs)

end

section

variable {visitor : Visitor} {function : String} {k : Kind} {cs : List Tree}

theorem mem_keysAt {i : Nat} {x : Literal} :
    x ∈ keysAt visitor function cs i ↔ ∃ c, cs[i]? = some c ∧ x ∈ c.keysOfCalls visitor function := by
  cases h : cs[i]? <;> simp [keysAt, h]

theorem mem_literals_of_key {t : Tree} {l : Literal} (h : l ∈ t.keysOfCalls visitor function) : l ∈ t.literals :=
  (t.keysOfCalls_subperm visitor function).subset h

theorem mem_keysBelow {x : Literal} :
    x ∈ (visitor.order k cs).flatMap (keysAt visitor function cs) ↔ ∃ c ∈ cs, x ∈ c.keysOfCalls visitor function := by
  rw [((visitor.once k cs).flatMap_right _).mem_iff, flatMap_keysAt, List.mem_flatMap]

theorem forall_keysAt_iff {p : List Literal → Prop} :
    (∀ i ∈ visitor.order k cs, p (keysAt visitor function cs i)) ↔ ∀ c ∈ cs, p (c.keysOfCalls visitor function) := by
  constructor
  · intro hall c hc
    obtain ⟨i, hi⟩ := List.mem_iff_getElem?.mp hc
    simpa [keysAt, hi] using hall i (visitor.mem_order.mpr (List.getElem?_eq_some_iff.mp hi).1)
  · intro hall i hi
    have hi := visitor.mem_order.mp hi
    simpa [keysAt, hi] using hall cs[i] (List.getElem_mem hi)

variable (h : cs.Pairwise fun c d => ∀ x ∈ c.literals, ∀ y ∈ d.literals, x.start < y.start)

include h

theorem keysAt_before {i j : Nat} (hij : i < j) {x y : Literal} (hx : x ∈ keysAt visitor function cs i)
    (hy : y ∈ keysAt visitor function cs j) : x.start < y.start := by
  obtain ⟨c, hc, hx⟩ := mem_keysAt.mp hx
  obtain ⟨d, hd, hy⟩ := mem_keysAt.mp hy
  obtain ⟨hi, rfl⟩ := List.getElem?_eq_some_iff.mp hc
  obtain ⟨hj, rfl⟩ := List.getElem?_eq_some_iff.mp hd
  exact List.pairwise_iff_getElem.mp h i j hi hj hij x (mem_literals_of_key hx) y (mem_literals_of_key hy)

theorem children_ascend_iff :
    (visitor.order k cs).Pairwise (fun i j => ∀ x ∈ keysAt visitor function cs i, ∀ y ∈ keysAt visitor function cs j,
        x.start < y.start) ↔
      (visitor.order k cs).Pairwise fun i j => j < i →
        keysAt visitor function cs i = [] ∨ keysAt visitor function cs j = [] := by
  constructor
  · intro hascend
    refine hascend.imp ?_
    intro i j hij hji
    by_contra hboth
    obtain ⟨hi, hj⟩ := not_or.mp hboth
    obtain ⟨x, hx⟩ := List.exists_mem_of_ne_nil _ hi
    obtain ⟨y, hy⟩ := List.exists_mem_of_ne_nil _ hj
    exact Nat.lt_asymm (hij x hx y hy) (keysAt_before h hji hy hx)
  · intro hempty
    refine (visitor.nodup_order.and hempty).imp ?_
    rintro i j ⟨hne, hij⟩ x hx y hy
    rcases Nat.lt_or_gt_of_ne hne with hlt | hgt
    · exact keysAt_before h hlt hx hy
    · rcases hij hgt with hnil | hnil
      · simp [hnil] at hx
      · simp [hnil] at hy

theorem own_first_iff (hwithin : ∀ c ∈ cs, c.literals.Pairwise (·.start < ·.start)) :
    (∀ l ∈ (keyOfCall? function (node k cs)).toList, ∀ x ∈ (visitor.order k cs).flatMap (keysAt visitor function cs),
        l.start < x.start) ↔
      ((keyOfCall? function (node k cs)).isSome = true → ∀ c ∈ cs.dropLast, c.keysOfCalls visitor function = []) := by
  cases hkey : keyOfCall? function (node k cs) with
  | none => simp
  | some l =>
    obtain ⟨between, others, hnode, _⟩ := (keyOfCall?_eq_some_iff function _ l).mp hkey
    obtain ⟨rfl, rfl⟩ := Tree.node.inj hnode
    rw [← List.cons_append] at h hwithin ⊢
    simp only [mem_keysBelow, Option.mem_toList, Option.some.injEq, forall_eq', Option.isSome_some, true_implies,
      List.dropLast_concat]
    obtain ⟨_, _, hlast⟩ := List.pairwise_append.mp h
    constructor
    · intro hfirst c hc
      by_contra hne
      obtain ⟨x, hx⟩ := List.exists_mem_of_ne_nil _ hne
      have hbefore := hlast c hc _ (List.mem_singleton_self _) x (mem_literals_of_key hx) l (by simp)
      exact Nat.lt_asymm hbefore (hfirst x ⟨c, List.mem_append_left _ hc, hx⟩)
    · rintro hnone x ⟨c, hc, hx⟩
      rcases List.mem_append.mp hc with hc | hc
      · simp [hnone c hc] at hx
      · obtain rfl := List.mem_singleton.mp hc
        -- what is below the other arguments stands after the first of them, the key
        have harguments := hwithin _ (List.mem_append_right _ hc)
        rw [literals_node, literalsAll_cons, literals_text, List.singleton_append, literalsAll_eq_flatMap,
          List.pairwise_cons] at harguments
        rw [(keysOfCalls_arguments visitor function l others).mem_iff, List.mem_flatMap] at hx
        obtain ⟨c, hc, hx⟩ := hx
        exact harguments.1 x (List.mem_flatMap.mpr ⟨c, hc, mem_literals_of_key hx⟩)

end

/-- The keys of a tree whose quoted texts ascend do so in the order of a walk just when the walk meets them in order. -/
theorem keysOfCalls_pairwise_iff (visitor : Visitor) (function : String) {t : Tree}
    (h : t.literals.Pairwise (·.start < ·.start)) :
    (t.keysOfCalls visitor function).Pairwise (·.start < ·.start) ↔ t.MeetsInOrder visitor function := by
  induction t using nodeInduction with
  | word name => simp [MeetsInOrder.word]
  | text l => simp [MeetsInOrder.text]
  | node k cs ih =>
    rw [literals_node, literalsAll_eq_flatMap, List.pairwise_flatMap] at h
    obtain ⟨hwithin, hapart⟩ := h
    have hown : (keyOfCall? function (node k cs)).toList.Pairwise (·.start < ·.start) := by
      cases keyOfCall? function (node k cs) <;> simp
    have hbelow : (∀ i ∈ visitor.order k cs, (keysAt visitor function cs i).Pairwise (·.start < ·.start)) ↔
        ∀ c ∈ cs, c.MeetsInOrder visitor function := by
      rw [forall_keysAt_iff (p := List.Pairwise (·.start < ·.start))]
      exact forall₂_congr fun c hc => ih c hc (hwithin c hc)
    rw [keysOfCalls_node, List.pairwise_append, List.pairwise_flatMap, hbelow, children_ascend_iff hapart,
      own_first_iff hapart hwithin]
    constructor
    · rintro ⟨_, ⟨hmeets, hchildren⟩, hfirst⟩
      exact .node ⟨hchildren, hfirst⟩ hmeets
    · intro hmeets
      cases hmeets with
      | node hin hbelow => exact ⟨hown, ⟨hbelow, hin.children⟩, hin.own⟩

end Tree

namespace CallSite

/-- In the tree of a document, if it has one, the calls are found in the order of the source. -/
def MeetsInOrder (parser : Parser) (visitor : Visitor) (document function : String) (language : Language) : Prop :=
  ∀ t, parser language (withoutMark document.toList).1 = some t → t.MeetsInOrder visitor function

section

variable {parser : Parser} (hparser : parser.KeepsOrder) (visitor : Visitor) (document function : String)
  (language : Language)

include hparser

theorem starts_ascend_iff :
    (scanBy parser visitor document function language).Pairwise (·.start < ·.start) ↔
      MeetsInOrder parser visitor document function language := by
  unfold scanBy MeetsInOrder
  cases ht : parser language (withoutMark document.toList).1 with
  | none => simp [ht]
  | some t =>
    have hascend : t.literals.Pairwise (·.start < ·.start) := by
      refine (hparser.apart ht).imp_of_mem ?_
      intro a b ha _ hab
      have hwidth := hparser.width ht a ha
      omega
    simp only [ht, Option.some.injEq, forall_eq']
    rw [← t.keysOfCalls_pairwise_iff visitor function hascend, List.pairwise_map]
    simp [ofLiteral]

theorem start_lt_stop {site : CallSite} (h : site ∈ scanBy parser visitor document function language) :
    site.start < site.stop := by
  obtain ⟨t, l, ht, hl, rfl⟩ := mem_scanBy h
  have hwidth := hparser.width ht l ((t.keysOfCalls_subperm visitor function).subset hl)
  simp only [ofLiteral]
  omega

theorem stops_ascend_iff :
    (scanBy parser visitor document function language).Pairwise (·.stop < ·.stop) ↔
      (scanBy parser visitor document function language).Pairwise (·.start < ·.start) := by
  have hapart := scanBy_apart hparser visitor document function language
  have hwidth : ∀ site ∈ scanBy parser visitor document function language, site.start < site.stop := fun _ =>
    start_lt_stop hparser visitor document function language
  constructor
  · intro hstops
    refine (hstops.and hapart).imp_of_mem ?_
    rintro a b ha _ ⟨hstop, hab⟩
    have := hwidth a ha
    omega
  · intro hstarts
    refine (hstarts.and hapart).imp_of_mem ?_
    rintro a b _ hb ⟨hstart, hab⟩
    have := hwidth b hb
    omega

end

end CallSite

end Gloss.Script

namespace Gloss

namespace Hint

theorem offset_of_ofSite? {dictionary : Dictionary} {site : Script.CallSite} {hint : Hint}
    (h : ofSite? dictionary site = some hint) : hint.offset = site.stop := by
  unfold ofSite? at h
  dsimp only at h
  split at h
  · cases h
  · obtain rfl := Option.some.inj h
    rfl

theorem exists_hint_of_each (sites : List Script.CallSite) :
    ∃ dictionary : Dictionary, ∀ site ∈ sites, (ofSite? dictionary site).isSome = true := by
  refine ⟨.ofPairs (sites.map fun site => (site.key, "x")), fun site hsite => ?_⟩
  have hvalue : (Dictionary.ofPairs (sites.map fun site => (site.key, "x")))[site.key]? = some "x" := by
    cases hget : (Dictionary.ofPairs (sites.map fun site => (site.key, "x")))[site.key]? with
    | none =>
      rw [Dictionary.getElem?_ofPairs, List.lookup_eq_none_iff] at hget
      have hkey := hget (site.key, "x") (List.mem_reverse.mpr (List.mem_map_of_mem hsite))
      simp at hkey
    | some value =>
      obtain ⟨other, _, hpair⟩ := List.mem_map.mp (Dictionary.mem_of_getElem?_ofPairs hget)
      rw [← (Prod.mk.inj hpair).2]
  have hdecode : (Escape.decode "x").isEmpty = false := by decide
  simp [ofSite?, hvalue, hdecode]

theorem offsets_ascend_iff (sites : List Script.CallSite) :
    (∀ dictionary, (resolve sites dictionary).Pairwise (·.offset < ·.offset)) ↔ sites.Pairwise (·.stop < ·.stop) := by
  unfold resolve
  simp only [List.pairwise_filterMap]
  constructor
  · intro hhints
    obtain ⟨dictionary, hall⟩ := exists_hint_of_each sites
    refine (hhints dictionary).imp_of_mem ?_
    intro a b ha hb hab
    obtain ⟨first, hfirst⟩ := Option.isSome_iff_exists.mp (hall a ha)
    obtain ⟨second, hsecond⟩ := Option.isSome_iff_exists.mp (hall b hb)
    simpa only [offset_of_ofSite? hfirst, offset_of_ofSite? hsecond] using hab first hfirst second hsecond
  · intro hstops dictionary
    refine hstops.imp ?_
    intro a b hab first hfirst second hsecond
    rw [offset_of_ofSite? hfirst, offset_of_ofSite? hsecond]
    exact hab

end Hint

/-- Whatever parser gives the trees and in whatever order a visitor comes to the children of a node, the call
sites of a document stand in the order of the source just when at each node of its tree the calls are found in
that order, and so do the hints that an engine gives under every dictionary. -/
theorem Script.scan_ascends_iff {parser : Script.Parser} (hparser : parser.KeepsOrder) (visitor : Script.Visitor)
    (document function : String) (language : Script.Language) :
    ((CallSite.scanBy parser visitor document function language).Pairwise (·.start < ·.start) ↔
        CallSite.MeetsInOrder parser visitor document function language) ∧
      ((∀ engine : Engine, engine.config.function = function →
          (engine.resolveBy parser visitor document language).Pairwise (·.offset < ·.offset)) ↔
        CallSite.MeetsInOrder parser visitor document function language) := by
  refine ⟨CallSite.starts_ascend_iff hparser visitor document function language, ?_⟩
  rw [← CallSite.starts_ascend_iff hparser, ← CallSite.stops_ascend_iff hparser, ← Hint.offsets_ascend_iff]
  constructor
  · intro hengine dictionary
    exact hengine { root := .empty, config := { function }, dictionary } rfl
  · rintro hhints engine rfl
    exact hhints engine.dictionary

theorem Script.nestedCalls_ascend :
    (CallSite.scan nestedCalls "t" .typescriptReact).Pairwise (·.start < ·.start) ∧
      ∀ engine : Engine, engine.config.function = "t" →
        (engine.resolve nestedCalls .typescriptReact).Pairwise (·.offset < ·.offset) := by
  have hsites : (CallSite.scan nestedCalls "t" .typescriptReact).Pairwise (·.start < ·.start) := by decide +kernel
  obtain ⟨hstarts, hhints⟩ := scan_ascends_iff parse?_keepsOrder .byFields nestedCalls "t" .typescriptReact
  exact ⟨hsites, hhints.mpr (hstarts.mp hsites)⟩

/-- The test of a loop comes after its body, and the walk comes to it first. -/
theorem Script.loop_test_found_first :
    ¬ (Script.CallSite.scan "do \x7b t(\"a\") \x7d while (t(\"b\"))" "t" .typescriptReact).Pairwise (·.start < ·.start) := by
  decide +kernel

end Gloss
