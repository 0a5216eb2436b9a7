import Gloss.Format
import Gloss.Proofs.Dictionary.Keys
import Gloss.Proofs.Json.Unambiguous
import Mathlib

namespace Gloss

namespace Json

def find? (j : Json) (names : List String) : Option Json := names.foldlM (fun j name => j.member? name) j

@[simp] theorem find?_nil (j : Json) : j.find? [] = some j := rfl

@[simp] theorem find?_cons (j : Json) (name : String) (names : List String) :
    j.find? (name :: names) = (j.member? name).bind (·.find? names) := rfl

theorem Unambiguous.find {j child : Json} (h : j.Unambiguous) {names : List String} (hc : j.find? names = some child) :
    child.Unambiguous := by
  induction names generalizing j with
  | nil =>
    obtain rfl := Option.some.inj hc
    exact h
  | cons name rest ih =>
    obtain ⟨next, hnext, hrest⟩ := Option.bind_eq_some_iff.mp hc
    exact ih (h.member hnext) hrest

mutual

/-- The texts in a value with the names that lead to each, depth first, in the order of the members. -/
def textsBelow : Json → List (List String × String)
  | text s => [([], s)]
  | object members => textsOf members
  | _ => []

def textsOf : List (String × Json) → List (List String × String)
  | [] => []
  | (name, j) :: members => (textsBelow j).map (fun t => (name :: t.1, t.2)) ++ textsOf members

end

theorem textsOf_eq_flatMap (members : List (String × Json)) :
    textsOf members = members.flatMap fun m => (textsBelow m.2).map fun t => (m.1 :: t.1, t.2) := by
  induction members with
  | nil => rw [textsOf, List.flatMap_nil]
  | cons m members ih => rw [textsOf, List.flatMap_cons, ih]

theorem mem_textsOf (members : List (String × Json)) (names : List String) (s : String) :
    (names, s) ∈ textsOf members ↔ ∃ m ∈ members, ∃ rest, (rest, s) ∈ textsBelow m.2 ∧ names = m.1 :: rest := by
  simp only [textsOf_eq_flatMap, List.mem_flatMap, List.mem_map, Prod.mk.injEq]
  constructor
  · rintro ⟨m, hm, t, ht, rfl, rfl⟩
    exact ⟨m, hm, t.1, ht, rfl⟩
  · rintro ⟨m, hm, rest, ht, rfl⟩
    exact ⟨m, hm, (rest, s), ht, rfl, rfl⟩

theorem mem_textsBelow {j : Json} (h : j.Unambiguous) (names : List String) (s : String) :
    (names, s) ∈ textsBelow j ↔ j.find? names = some (.text s) := by
  induction names generalizing j with
  | nil =>
    cases j with
    | text other => simp [textsBelow, eq_comm]
    | object members => simp [textsBelow, mem_textsOf]
    | _ => simp [textsBelow]
  | cons name rest ih =>
    cases j with
    | object members =>
      rw [textsBelow, mem_textsOf, find?_cons, Option.bind_eq_some_iff]
      cases h with
      | object distinct values =>
        constructor
        · rintro ⟨⟨first, child⟩, hm, below, ht, hnames⟩
          obtain ⟨rfl, rfl⟩ := List.cons.inj hnames
          exact ⟨child, (Entries.lookup_eq_some_iff distinct _ _).mpr hm, (ih (values _ hm)).mp ht⟩
        · rintro ⟨child, hchild, hf⟩
          have hm := (Entries.lookup_eq_some_iff distinct _ _).mp hchild
          exact ⟨(name, child), hm, rest, (ih (values _ hm)).mpr hf, rfl⟩
    | _ => simp [textsBelow, member?]

/-- Of two lists of names, the first goes on by an earlier member of the object where they part. -/
def Precedes (j : Json) (names others : List String) : Prop :=
  ∃ shared members name other rest rest', j.find? shared = some (.object members) ∧
    [name, other].Sublist (members.map (·.1)) ∧ names = shared ++ name :: rest ∧ others = shared ++ other :: rest'

theorem Precedes.ne {j : Json} (h : j.Unambiguous) {names others : List String} (hp : Precedes j names others) :
    names ≠ others := by
  obtain ⟨shared, members, name, other, rest, rest', hf, hsub, rfl, rfl⟩ := hp
  intro heq
  obtain ⟨rfl, _⟩ := List.cons.inj (List.append_cancel_left heq)
  have := (h.find hf).distinct.sublist hsub
  simp at this

theorem Precedes.below {members : List (String × Json)} {name : String} {child : Json}
    (hm : members.lookup name = some child) {names others : List String} (hp : Precedes child names others) :
    Precedes (.object members) (name :: names) (name :: others) := by
  obtain ⟨shared, inner, first, second, rest, rest', hf, hsub, rfl, rfl⟩ := hp
  exact ⟨name :: shared, inner, first, second, rest, rest', by simp [member?, hm, hf], hsub, rfl, rfl⟩

theorem textsBelow_pairwise {j : Json} (h : j.Unambiguous) :
    (textsBelow j).Pairwise fun t u => Precedes j t.1 u.1 := by
  induction h with
  | object distinct _ ih =>
    rw [textsBelow, textsOf_eq_flatMap, List.pairwise_flatMap]
    constructor
    · intro m hm
      refine List.pairwise_map.mpr ((ih m hm).imp ?_)
      intro t u htu
      exact htu.below ((Entries.lookup_eq_some_iff distinct _ _).mpr hm)
    · rw [List.pairwise_iff_forall_sublist]
      intro m m' hsub t ht u hu
      obtain ⟨⟨rest, s⟩, _, rfl⟩ := List.mem_map.mp ht
      obtain ⟨⟨rest', s'⟩, _, rfl⟩ := List.mem_map.mp hu
      exact ⟨[], _, m.1, m'.1, rest, rest', rfl, hsub.map Prod.fst, rfl, rfl⟩
  | text s => simp [textsBelow]
  | _ => simp [textsBelow]

def keyOf (names : List String) : String := ".".intercalate (names.dropWhile (·.isEmpty))

theorem intercalate_concat (separator : String) {texts : List String} (h : texts ≠ []) (last : String) :
    separator.intercalate (texts ++ [last]) = separator.intercalate texts ++ separator ++ last := by
  induction texts with
  | nil => exact absurd rfl h
  | cons first texts ih =>
    cases texts with
    | nil => simp
    | cons second texts =>
      have hrest := ih (by simp)
      simp only [List.cons_append] at hrest ⊢
      rw [String.intercalate_cons_cons, hrest, String.intercalate_cons_cons]
      simp only [String.append_assoc]

theorem keyOf_concat (names : List String) (name : String) : keyOf (names ++ [name]) = keyBelow (keyOf names) name := by
  unfold keyOf keyBelow
  rw [List.dropWhile_append]
  cases hrest : names.dropWhile (·.isEmpty) with
  | nil =>
    by_cases hname : name.isEmpty = true
    · simp_all
    · simp [hname]
  | cons first rest =>
    -- the key is not empty, for it begins with a name that is not
    have hfirst : first.isEmpty = false := by
      have := List.dropWhile_get_zero_not (·.isEmpty) names
      simp_all
    have hkey : (".".intercalate (first :: rest)).isEmpty = false := by
      cases rest with
      | nil => simpa using hfirst
      | cons second rest => simp_all [String.intercalate_cons_cons]
    have hconcat := intercalate_concat "." (List.cons_ne_nil first rest) name
    simpa [hkey] using hconcat

theorem foldl_keyBelow (names : List String) : names.foldl keyBelow "" = keyOf names := by
  induction names using List.reverseRecOn with
  | nil => rfl
  | append_singleton names name ih => rw [List.foldl_append, ih, keyOf_concat]; rfl

theorem splitOn_keyOf {names : List String} (hne : names ≠ []) (h : ∀ name ∈ names, name ≠ "" ∧ '.' ∉ name.toList) :
    (keyOf names).toList.splitOn '.' = names.map String.toList := by
  have hfront : names.dropWhile (·.isEmpty) = names := by
    cases names with
    | nil => rfl
    | cons name rest => simp [(h name (by simp)).1]
  have hdots : ∀ cs ∈ names.map String.toList, '.' ∉ cs := by
    intro cs hcs
    obtain ⟨name, hm, rfl⟩ := List.mem_map.mp hcs
    exact (h name hm).2
  rw [keyOf, hfront, String.toList_intercalate]
  exact List.splitOn_intercalate '.' hdots (by simpa using hne)

theorem keyOf_injective {names others : List String} (hne : names ≠ []) (hne' : others ≠ [])
    (h : ∀ name ∈ names, name ≠ "" ∧ '.' ∉ name.toList) (h' : ∀ name ∈ others, name ≠ "" ∧ '.' ∉ name.toList)
    (hkey : keyOf names = keyOf others) : names = others := by
  have hsplit : names.map String.toList = others.map String.toList := by
    rw [← splitOn_keyOf hne h, ← splitOn_keyOf hne' h', hkey]
  exact List.map_injective_iff.mpr (fun s t hst => String.toList_injective hst) hsplit

theorem keyOf_ne_empty {names : List String} (hne : names ≠ []) (h : ∀ name ∈ names, name ≠ "" ∧ '.' ∉ name.toList) :
    keyOf names ≠ "" := by
  intro hkey
  have hsplit := splitOn_keyOf hne h
  rw [hkey] at hsplit
  obtain ⟨name, rest, rfl⟩ := List.exists_cons_of_ne_nil hne
  have hname : [] = name.toList := (List.cons.inj hsplit).1
  exact (h name (by simp)).1 (by simpa using hname.symm)

def entryBelow? (key : String) (t : List String × String) : Option (String × String) :=
  let key := t.1.foldl keyBelow key
  if key.isEmpty then none else some (key, t.2)

mutual

theorem leaves_eq (key : String) : ∀ j : Json, leaves key j = (textsBelow j).filterMap (entryBelow? key)
  | .text s => by
    rw [leaves, textsBelow]
    by_cases hkey : key.isEmpty = true <;> simp [entryBelow?, hkey]
  | .object members => by rw [leaves, textsBelow, memberLeaves_eq key members]
  | .null | .bool _ | .number _ | .list _ => by simp [leaves, textsBelow]

theorem memberLeaves_eq (key : String) : ∀ members : List (String × Json),
    memberLeaves key members = (textsOf members).filterMap (entryBelow? key)
  | [] => by simp [memberLeaves, textsOf]
  | (name, j) :: members => by
    rw [memberLeaves, textsOf, leaves_eq (keyBelow key name) j, memberLeaves_eq key members, List.filterMap_append,
      List.filterMap_map]
    rfl

end

theorem entryBelow?_eq (t : List String × String) :
    entryBelow? "" t = if keyOf t.1 = "" then none else some (keyOf t.1, t.2) := by
  simp [entryBelow?, foldl_keyBelow]

theorem lookup_entries {key : String} (hkey : key ≠ "") (texts : List (List String × String)) :
    (texts.filterMap (entryBelow? "")).lookup key = (texts.find? fun t => keyOf t.1 = key).map (·.2) := by
  induction texts with
  | nil => rfl
  | cons t texts ih =>
    rw [List.filterMap_cons, entryBelow?_eq, List.find?_cons]
    by_cases hempty : keyOf t.1 = ""
    · simp [hempty, hkey.symm, ih]
    · by_cases hsame : keyOf t.1 = key
      · simp [hsame, hkey]
      · simp [hempty, hsame, List.lookup_cons, beq_eq_false_iff_ne.mpr (Ne.symm hsame), ih]

theorem getElem?_entries {key : String} (hkey : key ≠ "") (texts : List (List String × String)) :
    (Dictionary.ofPairs (texts.filterMap (entryBelow? "")))[key]? =
      ((texts.filter fun t => keyOf t.1 = key).getLast?).map (·.2) := by
  rw [Dictionary.getElem?_ofPairs, ← List.filterMap_reverse, lookup_entries hkey, List.getLast?_filter]

section Plain

variable {members : List (String × Json)}
  (hplain : ∀ t ∈ textsOf members, ∀ name ∈ t.1, name ≠ "" ∧ '.' ∉ name.toList)

theorem names_ne_nil {t : List String × String} (h : t ∈ textsOf members) : t.1 ≠ [] := by
  obtain ⟨m, _, rest, _, hnames⟩ := (mem_textsOf members t.1 t.2).mp h
  rw [hnames]
  exact List.cons_ne_nil _ _

include hplain

theorem entries_of_plain : (textsOf members).filterMap (entryBelow? "") =
    (textsOf members).map fun t => (keyOf t.1, t.2) := by
  rw [← List.filterMap_eq_map]
  apply List.filterMap_congr
  intro t ht
  rw [entryBelow?_eq, if_neg (keyOf_ne_empty (names_ne_nil ht) (hplain t ht)), Function.comp_apply]

theorem nodup_keys (h : Unambiguous (.object members)) : ((textsOf members).map fun t => keyOf t.1).Nodup := by
  have hpairwise := textsBelow_pairwise h
  rw [textsBelow] at hpairwise
  refine List.pairwise_map.mpr (hpairwise.imp_of_mem ?_)
  intro t u ht hu htu hkey
  exact htu.ne h (keyOf_injective (names_ne_nil ht) (names_ne_nil hu) (hplain t ht) (hplain u hu) hkey)

end Plain

end Json

/-- An object of any depth gives each key the last of its texts with that key, and nothing else. -/
theorem Format.object_flattens {members : List (String × Json)} (h : (Json.object members).Unambiguous) :
    (∀ names s, (names, s) ∈ Json.textsOf members ↔ (Json.object members).find? names = some (.text s)) ∧
    (Json.textsOf members).Pairwise (fun t u => (Json.object members).Precedes t.1 u.1) ∧
    ∃ entries : Dictionary, ofObject (.object members) = .ok entries ∧
      (∀ text, Json.read text = .ok (.object members) → json.parse text = .ok entries) ∧
      entries[""]? = none ∧
      (∀ key ≠ "", entries[key]? =
        (((Json.textsOf members).filter fun t => Json.keyOf t.1 = key).getLast?).map (·.2)) ∧
      ((∀ t ∈ Json.textsOf members, ∀ name ∈ t.1, name ≠ "" ∧ '.' ∉ name.toList) →
        ((Json.textsOf members).map fun t => Json.keyOf t.1).Nodup ∧ entries.size = (Json.textsOf members).length ∧
          ∀ t ∈ Json.textsOf members, entries[Json.keyOf t.1]? = some t.2) := by
  have hobject : ofObject (.object members) =
      .ok (Dictionary.ofPairs ((Json.textsOf members).filterMap (Json.entryBelow? ""))) := by
    rw [ofObject, Json.memberLeaves_eq]
  have hpairwise := Json.textsBelow_pairwise h
  rw [Json.textsBelow] at hpairwise
  refine ⟨?_, hpairwise, _, hobject, ?_, ?_, fun key hkey => Json.getElem?_entries hkey _, ?_⟩
  · intro names s
    rw [← Json.mem_textsBelow h, Json.textsBelow]
  · intro text hread
    rw [parse, hread]
    exact hobject
  · rw [← Json.memberLeaves_eq, Option.eq_none_iff_forall_ne_some]
    intro value hvalue
    exact Json.memberLeaves_key_ne_empty "" members _ (Dictionary.mem_of_getElem?_ofPairs hvalue) rfl
  · intro hplain
    have hnodup := Json.nodup_keys hplain h
    have hpairs : (((Json.textsOf members).map fun t => (Json.keyOf t.1, t.2)).map (·.1)).Nodup := by
      rwa [List.map_map]
    rw [Json.entries_of_plain hplain]
    refine ⟨hnodup, by rw [Dictionary.size_ofPairs hpairs, List.length_map], fun t ht => ?_⟩
    exact Dictionary.getElem?_ofPairs_of_mem hpairs (List.mem_map.mpr ⟨t, ht, rfl⟩)

def nestedMembers : List (String × Json) :=
  [("a", .object [("b", .text "x")]), ("l", .list [.text "y"]), ("c", .text "z")]

def nestedText : String := "\x7b\"a\":\x7b\"b\":\"x\"\x7d,\"l\":[\"y\"],\"c\":\"z\"\x7d"

theorem nested_flattens : Json.read nestedText = .ok (.object nestedMembers) ∧
    (Json.object nestedMembers).Unambiguous ∧
    (∀ t ∈ Json.textsOf nestedMembers, ∀ name ∈ t.1, name ≠ "" ∧ '.' ∉ name.toList) ∧
    ∃ entries : Dictionary, Format.json.parse nestedText = .ok entries ∧ entries.size = 2 ∧
      entries["a.b"]? = some "x" := by
  have hread : Json.read nestedText = .ok (.object nestedMembers) := by cbv
  have hplain : ∀ t ∈ Json.textsOf nestedMembers, ∀ name ∈ t.1, name ≠ "" ∧ '.' ∉ name.toList := by decide
  have hcount : (Json.textsOf nestedMembers).length = 2 := by decide
  have h := Json.unambiguous_of_read hread
  obtain ⟨_, _, entries, _, hparse, _, hkeys, hnumber⟩ := Format.object_flattens h
  refine ⟨hread, h, hplain, entries, hparse _ hread, ?_, ?_⟩
  · rw [(hnumber hplain).2.1, hcount]
  · rw [hkeys _ (by decide)]
    decide +kernel

example : Format.ofObject (.object [("", .object [("a.b", .text "1")]), ("a", .object [("b", .text "2")])]) =
    .ok (Dictionary.ofPairs [("a.b", "1"), ("a.b", "2")]) := by rfl

end Gloss
