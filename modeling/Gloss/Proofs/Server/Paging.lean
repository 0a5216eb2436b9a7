import Gloss.Proofs.Hint.Candidates
import Gloss.Proofs.Server.Arguments

namespace Gloss

namespace Page

variable {α : Type} (xs : List α) (offset limit : Nat)

theorem one_le_limitOf {requested : Option Nat} (h : ∀ n ∈ requested, 1 ≤ n) : 1 ≤ limitOf requested := by
  cases requested with
  | none => decide
  | some n =>
    apply Nat.le_min.mpr
    exact ⟨h n rfl, by decide⟩

theorem items_append_drop :
    (ofList xs offset limit).items ++ xs.drop (offset + (ofList xs offset limit).items.length) = xs.drop offset := by
  rw [← List.drop_drop]
  exact (List.prefix_iff_eq_append.mp (List.take_prefix limit (xs.drop offset)))

theorem hasMore_iff :
    (ofList xs offset limit).hasMore = true ↔ xs.drop (offset + (ofList xs offset limit).items.length) ≠ [] := by
  rw [hasMore, decide_eq_true_iff, ne_eq, List.drop_eq_nil_iff, Nat.not_le]
  rfl

theorem one_le_length_items {xs : List α} {offset limit : Nat} (hlimit : 1 ≤ limit)
    (h : (ofList xs offset limit).hasMore = true) : 1 ≤ (ofList xs offset limit).items.length := by
  simp only [hasMore, ofList, decide_eq_true_iff, List.length_take, List.length_drop] at h ⊢
  omega

theorem exists_split : ∃ before after, xs = before ++ (ofList xs offset limit).items ++ after ∧
    before.length = min offset xs.length ∧ ((ofList xs offset limit).hasMore = true ↔ after ≠ []) := by
  refine ⟨xs.take offset, xs.drop (offset + (ofList xs offset limit).items.length), ?_, List.length_take, ?_⟩
  · rw [List.append_assoc, items_append_drop, List.take_append_drop]
  · exact hasMore_iff xs offset limit

end Page

namespace Candidate

theorem map_key_ofDictionary (dictionary : Dictionary) :
    (ofDictionary dictionary).map (·.key) = dictionary.toList.map (·.1) := by
  rw [ofDictionary, List.map_map]
  rfl

theorem length_ofDictionary (dictionary : Dictionary) : (ofDictionary dictionary).length = dictionary.size := by
  rw [ofDictionary, List.length_map, Std.ExtTreeMap.length_toList]

end Candidate

def Engine.page (engine : Engine) (limit : Option Nat) (offset : Nat) : Page Candidate :=
  .ofList engine.completions offset (Page.limitOf limit)

namespace Server

theorem keep_known {server : Server} {root : Path} {engine : Engine} (h : server.engine? root = some engine) :
    server.keep root engine = server :=
  congrArg Server.mk (Entries.put_of_lookup (place root.components engine) (fun _ _ => rfl) h)

def pageArguments (root : String) (limit : Option Nat) (offset : Nat) : Arguments :=
  [("projectRootPath", .text root), ("offset", .count offset)] ++ (limit.map fun n => ("limit", .count n)).toList

/-- The pages that a client turns from an offset on: it asks for the next page behind the items of the last, as
long as there are more. -/
inductive Turned (tree : FileTree) (root : String) (limit : Option Nat) : Server → Nat → List (Page Candidate) → Prop
  | last {server after : Server} {offset : Nat} {page : Page Candidate} :
    server.call tree "list_completions" (pageArguments root limit offset).toJson =
        (.ok (.completions true page), after) →
      page.hasMore = false → Turned tree root limit server offset [page]
  | further {server after : Server} {offset : Nat} {page : Page Candidate} {pages : List (Page Candidate)} :
    server.call tree "list_completions" (pageArguments root limit offset).toJson =
        (.ok (.completions true page), after) →
      page.hasMore = true → Turned tree root limit after (offset + page.items.length) pages →
      Turned tree root limit server offset (page :: pages)

section

variable {server : Server} (tree : FileTree) {root : String} {limit : Option Nat} {offset : Nat}

theorem pageArguments_fit (hoffset : offset < Form.countBound) (hlimit : ∀ n ∈ limit, n < Form.countBound) :
    (pageArguments root limit offset).Fit Tool.listCompletions.parameters := by
  refine ⟨List.forall_mem_append.mpr ⟨?_, ?_⟩, rfl⟩
  · refine List.forall_mem_cons.mpr ⟨rfl, ?_⟩
    exact List.forall_mem_singleton.mpr (decide_eq_true hoffset)
  · cases limit with
    | none => exact List.forall_mem_nil _
    | some n => exact List.forall_mem_singleton.mpr (decide_eq_true (hlimit n rfl))

theorem request_pageArguments :
    Tool.listCompletions.request (pageArguments root limit offset) = .completions none (some offset) limit := by
  cases limit <;> rfl

variable {engine : Engine} (h : server.engine? (.ofText root) = some engine)

include h

theorem call_page (hoffset : offset < Form.countBound) (hlimit : ∀ n ∈ limit, n < Form.countBound) :
    server.call tree "list_completions" (pageArguments root limit offset).toJson =
      (.ok (.completions true (engine.page limit offset)), server) := by
  have hfit : (pageArguments root limit offset).Fit Tool.listCompletions.parameters := pageArguments_fit hoffset hlimit
  have hcall := call_known tree hfit rfl h
  rw [request_pageArguments] at hcall
  exact hcall.trans (congrArg (Prod.mk _) (keep_known h))

theorem turned_iff (hoffset : offset < Form.countBound) (hlimit : ∀ n ∈ limit, n < Form.countBound)
    (pages : List (Page Candidate)) :
    Turned tree root limit server offset pages ↔
      if (engine.page limit offset).hasMore then
        ∃ rest, Turned tree root limit server (offset + (engine.page limit offset).items.length) rest ∧
          pages = engine.page limit offset :: rest
      else pages = [engine.page limit offset] := by
  have hpage := call_page tree h hoffset hlimit
  constructor
  · intro hturned
    cases hturned with
    | last hcall hend =>
      rw [hpage] at hcall
      cases hcall
      rw [hend, if_neg Bool.false_ne_true]
    | further hcall hmore hrest =>
      rw [hpage] at hcall
      cases hcall
      rw [if_pos hmore]
      exact ⟨_, hrest, rfl⟩
  · intro hpages
    cases hmore : (engine.page limit offset).hasMore with
    | true =>
      rw [if_pos hmore] at hpages
      obtain ⟨rest, hrest, rfl⟩ := hpages
      exact .further hpage hmore hrest
    | false =>
      rw [hmore, if_neg Bool.false_ne_true] at hpages
      rw [hpages]
      exact .last hpage hmore

theorem exists_turned (hsize : engine.completions.length < Form.countBound)
    (hlimit : ∀ n ∈ limit, 1 ≤ n ∧ n < Form.countBound) (offset : Nat) (hoffset : offset ≤ engine.completions.length) :
    ∃ pages, (∀ others, Turned tree root limit server offset others ↔ others = pages) ∧
      pages.flatMap (·.items) = engine.completions.drop offset ∧
      ∀ page ∈ pages, page.total = engine.completions.length := by
  have hturned := turned_iff tree h (Nat.lt_of_le_of_lt hoffset hsize) fun n hn => (hlimit n hn).2
  have hitems := Page.items_append_drop engine.completions offset (Page.limitOf limit)
  have hmore_iff := Page.hasMore_iff engine.completions offset (Page.limitOf limit)
  -- a page with more behind it is not empty, so less stands behind the next offset
  cases hmore : (engine.page limit offset).hasMore with
  | true =>
    have hsome : 1 ≤ (engine.page limit offset).items.length :=
      Page.one_le_length_items (Page.one_le_limitOf fun n hn => (hlimit n hn).1) hmore
    have hnext : offset + (engine.page limit offset).items.length < engine.completions.length :=
      Nat.lt_of_not_le (mt List.drop_eq_nil_iff.mpr (hmore_iff.mp hmore))
    obtain ⟨rest, hrest, hjoined, htotal⟩ := exists_turned hsize hlimit _ hnext.le
    refine ⟨engine.page limit offset :: rest, fun others => ?_, ?_, List.forall_mem_cons.mpr ⟨rfl, htotal⟩⟩
    · rw [hturned, if_pos hmore]
      simp only [hrest, exists_eq_left]
    · rw [List.flatMap_cons, hjoined]
      exact hitems
  | false =>
    have hend := not_not.mp (hmore_iff.not.mp (Bool.eq_false_iff.mp hmore))
    rw [hend, List.append_nil] at hitems
    refine ⟨[engine.page limit offset], fun others => ?_, ?_, List.forall_mem_singleton.mpr rfl⟩
    · rw [hturned, hmore, if_neg Bool.false_ne_true]
    · rw [List.flatMap_singleton]
      exact hitems
termination_by engine.completions.length - offset

/-- Turning the pages of a project from the first on comes to an end, and tells each entry of the dictionary once,
in the order of the keys, and the number of entries on each page. There are more behind a page just when entries
stand behind it, wherever it begins. -/
theorem pages_tell_all (hsize : engine.dictionary.size < Form.countBound)
    (hlimit : ∀ n ∈ limit, 1 ≤ n ∧ n < Form.countBound) :
    (∃ pages, (∀ others, Turned tree root limit server 0 others ↔ others = pages) ∧
      ((pages.flatMap (·.items)).map (·.key)).Pairwise (· < ·) ∧
      (∀ candidate, candidate ∈ pages.flatMap (·.items) ↔
        ∃ raw, engine.dictionary[candidate.key]? = some raw ∧ Escape.decode raw = candidate.text) ∧
      ∀ page ∈ pages, page.total = engine.dictionary.size) ∧
    ∀ offset < Form.countBound, ∃ page,
      server.call tree "list_completions" (pageArguments root limit offset).toJson =
          (.ok (.completions true page), server) ∧
      ∃ before after, engine.completions = before ++ page.items ++ after ∧
        before.length = min offset engine.dictionary.size ∧ (page.hasMore = true ↔ after ≠ []) := by
  have hlength : engine.completions.length = engine.dictionary.size := Candidate.length_ofDictionary _
  constructor
  · obtain ⟨pages, hturned, hall, htotal⟩ := exists_turned tree h (hlength ▸ hsize) hlimit 0 (Nat.zero_le _)
    rw [List.drop_zero] at hall
    rw [hlength] at htotal
    refine ⟨pages, hturned, ?_, ?_, htotal⟩
    · rw [hall, Engine.completions, Candidate.map_key_ofDictionary]
      exact Dictionary.keys_ascend _
    · intro candidate
      rw [hall]
      exact Candidate.mem_ofDictionary_iff
  · intro offset hoffset
    refine ⟨_, call_page tree h hoffset fun n hn => (hlimit n hn).2, ?_⟩
    rw [← hlength]
    exact Page.exists_split _ _ _

end

def threeKeysEngine : Engine where
  root := .ofText "/p"
  config := {}
  dictionary := Dictionary.ofPairs [("b.key", "\\u4e8c"), ("c.key", ""), ("a.key", "One")]

def threeKeysServer : Server := ⟨[((Path.ofText "/p").components, threeKeysEngine)]⟩

theorem two_at_a_time : threeKeysServer.engine? (.ofText "//p/.") = some threeKeysEngine ∧
    threeKeysEngine.dictionary.size < Form.countBound ∧ (∀ n ∈ some 2, 1 ≤ n ∧ n < Form.countBound) ∧
    ∃ pages, Turned ⟨.directory [], []⟩ "//p/." (some 2) threeKeysServer 0 pages ∧
      ((pages.flatMap (·.items)).map (·.key)).Pairwise (· < ·) ∧ ⟨"b.key", "二"⟩ ∈ pages.flatMap (·.items) := by
  have hserver : threeKeysServer.engine? (.ofText "//p/.") = some threeKeysEngine := rfl
  have hsize : threeKeysEngine.dictionary.size < Form.countBound := by
    rw [threeKeysEngine, Dictionary.size_ofPairs (by decide)]
    decide
  have hlimit : ∀ n ∈ some 2, 1 ≤ n ∧ n < Form.countBound := by
    intro n hn
    obtain rfl := Option.some.inj hn
    decide
  obtain ⟨⟨pages, hturned, hascend, hmem, _⟩, _⟩ := pages_tell_all ⟨.directory [], []⟩ hserver hsize hlimit
  refine ⟨hserver, hsize, hlimit, pages, (hturned pages).mpr rfl, hascend, (hmem _).mpr ⟨"\\u4e8c", ?_, by cbv⟩⟩
  decide +kernel

end Server

end Gloss
