import Gloss.Proofs.Engine.SavedFile
import Gloss.Proofs.FileTree.Saved

/-!
A saved file laid over what a reload left. A reload ranks the listed files and a saved file has the last
word, so the two agree just on keys to which no file listed later gives another value.
-/

namespace Gloss

theorem loadFile_congr {tree other : FileTree} {path : Path} (h : tree.node path = other.node path) :
    loadFile tree path = loadFile other path := by
  unfold loadFile FileTree.readText
  rw [h]

namespace FileTree

theorem value?_of_loadFile {tree : FileTree} {path : Path} {entries : Dictionary}
    (h : loadFile tree path = .ok entries) (key : String) : tree.value? path key = entries[key]? := by
  rw [value?, h]
  rfl

theorem node_of_resolve {tree : FileTree} {path : Path} {place : List String} {node : Node}
    (h : tree.resolve true path = .ok (place, node)) : tree.node path = .ok node := by
  rw [FileTree.node, h]
  rfl

theorem HasFile.isDirectory {tree : FileTree} {root : Path} {names base : List String} {node : Node}
    (h : tree.HasFile root names) (hr : tree.resolve true root = .ok (base, node)) : node.isDirectory = true := by
  obtain ⟨hn, there, bytes, hthere, hf⟩ := h
  rw [node_of_resolve hr] at hthere
  obtain rfl := Except.ok.inj hthere
  rw [Node.isDirectory_of_find hf, decide_eq_true hn]

theorem node_under {tree : FileTree} (ht : tree.WellNamed) {root : Path} {base names : List String} {node : Node}
    (hr : tree.resolve true root = .ok (base, node)) {bytes : ByteArray}
    (hf : tree.top.find? (base ++ names) = some (.file bytes)) :
    tree.node (Discovery.under root names) = .ok (.file bytes) := by
  have hnames : Path.AreNames names := fun s hs => (ht.find hf).1 s (List.mem_append_right base hs)
  rw [Node.find?_append, find_of_resolve hr, Option.bind_some] at hf
  exact node_of_resolve (resolve_under hr hnames hf)

structure SavesBelow (root : Path) (names : List String) (before after : FileTree) : Prop where
  file : after.HasFile root names
  saves : ∃ base node, after.resolve true root = .ok (base, node) ∧ Saves (base ++ names) before after

end FileTree

namespace Engine

/-- The last listed file that has a key gives it a value. -/
def Settles (engine : Engine) (tree : FileTree) (key value : String) : Prop :=
  ∃ front last later, (engine.discover tree).files = front ++ last :: later ∧
    tree.value? last key = some value ∧ ∀ other ∈ later, tree.value? other key = none

theorem reload_settles (engine : Engine) (tree : FileTree) (key value : String) :
    (engine.reload tree).2.dictionary[key]? = some value ↔ engine.Settles tree key value := by
  rw [getElem?_reload, List.findSome?_eq_some_iff]
  constructor
  · rintro ⟨later, last, front, hfiles, hvalue, hlater⟩
    refine ⟨front.reverse, last, later.reverse, ?_, hvalue, fun other hm => hlater other (List.mem_reverse.mp hm)⟩
    simpa using congrArg List.reverse hfiles
  · rintro ⟨front, last, later, hfiles, hvalue, hlater⟩
    refine ⟨later.reverse, last, front.reverse, ?_, hvalue, fun other hm => hlater other (List.mem_reverse.mp hm)⟩
    simp [hfiles]

@[simp] theorem root_reload (engine : Engine) (tree : FileTree) : (engine.reload tree).2.root = engine.root := by
  simp only [reload]

@[simp] theorem admits_reload (engine : Engine) (tree : FileTree) (path : Path) :
    (engine.reload tree).2.admits path = engine.admits path := by
  simp only [reload, admits]

theorem merged_after_reload_iff (engine : Engine) (before after : FileTree) (path : Path) (keys : Nat) :
    ((engine.reload before).2.reloadFile after path).1 = .merged keys ↔
      (Format.ofPath? path).isSome = true ∧ engine.admits (engine.root.join path) = true ∧
        ∃ entries, loadFile after (engine.root.join path) = .ok entries ∧ entries.size = keys := by
  rw [merged_iff, admits_reload, root_reload]

theorem reloadFile_cases (engine : Engine) (tree : FileTree) (path : Path) :
    (∃ entries, loadFile tree (engine.root.join path) = .ok entries ∧ engine.reloadFile tree path =
        (.merged entries.size, { engine with dictionary := engine.dictionary.overlay entries })) ∨
      (∀ keys, (engine.reloadFile tree path).1 ≠ .merged keys) ∧ (engine.reloadFile tree path).2 = engine := by
  unfold reloadFile
  split
  · exact Or.inr ⟨by simp, rfl⟩
  · dsimp only
    split
    · cases hl : loadFile tree (engine.root.join path) with
      | ok entries => exact Or.inl ⟨entries, rfl, rfl⟩
      | error e => exact Or.inr ⟨by simp, rfl⟩
    · exact Or.inr ⟨by simp, rfl⟩

theorem getElem?_reloadFile {engine : Engine} {tree : FileTree} {path : Path} {keys : Nat}
    (h : (engine.reloadFile tree path).1 = .merged keys) (key : String) :
    (engine.reloadFile tree path).2.dictionary[key]? =
      (tree.value? (engine.root.join path) key).or engine.dictionary[key]? := by
  rcases engine.reloadFile_cases tree path with ⟨entries, hl, hm⟩ | ⟨hnot, _⟩
  · rw [hm, FileTree.value?_of_loadFile hl]
    exact Dictionary.getElem?_overlay engine.dictionary entries key
  · exact absurd h (hnot keys)

theorem settles_of_last {engine : Engine} {tree : FileTree} {path : Path} (hlisted : path ∈ (engine.discover tree).files)
    {key value : String} (hvalue : tree.value? path key = some value)
    (hlast : ∀ other, [path, other].Sublist (engine.discover tree).files → tree.value? other key = none ∨
      tree.value? other key = some value) : engine.Settles tree key value := by
  have hdefined : (engine.reload tree).2.dictionary[key]? ≠ none := by
    intro hnone
    have := (reload_lacks_iff engine tree key).mp hnone path hlisted
    simp [this] at hvalue
  obtain ⟨found, hfound⟩ := Option.ne_none_iff_exists'.mp hdefined
  have hsettles := (reload_settles engine tree key found).mp hfound
  obtain ⟨front, last, later, hfiles, hlastvalue, hlater⟩ := id hsettles
  obtain rfl : found = value := by
    -- of the files that have the key the last is `path`, or stands after it and agrees with it
    rw [hfiles, List.mem_append, List.mem_cons] at hlisted
    rcases hlisted with hm | rfl | hm
    · have hbefore : [path, last].Sublist (engine.discover tree).files := by
        rw [hfiles]
        exact (List.singleton_sublist.mpr hm).append (List.singleton_sublist.mpr List.mem_cons_self)
      rcases hlast last hbefore with hnone | hsame
      · simp [hnone] at hlastvalue
      · exact Option.some.inj (hlastvalue.symm.trans hsame)
    · exact Option.some.inj (hlastvalue.symm.trans hvalue)
    · simp [hlater path hm] at hvalue
  exact hsettles

/-- A saved file that has not changed since a reload leaves the dictionary as it is just when it is not
merged or the last listed file with each of its keys gives the same value. -/
theorem resaved_unchanged_iff (engine : Engine) (tree : FileTree) (path : Path) :
    (((engine.reload tree).2.reloadFile tree path).2.dictionary = (engine.reload tree).2.dictionary ↔
      ∀ keys, ((engine.reload tree).2.reloadFile tree path).1 = .merged keys →
        ∀ key value, tree.value? (engine.root.join path) key = some value → engine.Settles tree key value) ∧
    (engine.root.join path ∈ (engine.discover tree).files →
      (∀ other, [engine.root.join path, other].Sublist (engine.discover tree).files →
        ∀ key value, tree.value? (engine.root.join path) key = some value →
          tree.value? other key = none ∨ tree.value? other key = some value) →
      ((engine.reload tree).2.reloadFile tree path).2.dictionary = (engine.reload tree).2.dictionary) := by
  have hiff : ((engine.reload tree).2.reloadFile tree path).2.dictionary = (engine.reload tree).2.dictionary ↔
      ∀ keys, ((engine.reload tree).2.reloadFile tree path).1 = .merged keys →
        ∀ key value, tree.value? (engine.root.join path) key = some value → engine.Settles tree key value := by
    simp only [← reload_settles]
    constructor
    · intro hsame keys hm key value hvalue
      rw [← hsame, getElem?_reloadFile hm key, root_reload, hvalue, Option.some_or]
    · intro hsettled
      rcases (engine.reload tree).2.reloadFile_cases tree path with ⟨entries, _, hmerged⟩ | ⟨_, hkept⟩
      · have hm := congrArg Prod.fst hmerged
        apply Std.ExtTreeMap.ext_getElem?
        intro key
        rw [getElem?_reloadFile hm key, root_reload]
        cases hvalue : tree.value? (engine.root.join path) key with
        | none => rw [Option.none_or]
        | some value => rw [hsettled _ hm key value hvalue, Option.some_or]
      · rw [hkept]
  refine ⟨hiff, fun hlisted hlast => hiff.mpr fun _ _ key value hvalue => ?_⟩
  exact settles_of_last hlisted hvalue fun other hbefore => hlast other hbefore key value hvalue

theorem overlapping_loads :
    loadFile overlappingTree (overlappingEngine.root.join (.ofText "z.b.properties")) =
        .ok (Dictionary.ofPairs [("k", "1")]) ∧
      loadFile overlappingTree (overlappingEngine.root.join (.ofText "a.properties")) =
        .ok (Dictionary.ofPairs [("k", "2")]) ∧
      (loadFile overlappingTree (overlappingEngine.root.join (.ofText "m.properties"))).toOption = none := by
  refine ⟨?_, ?_, ?_⟩ <;> cbv

theorem overlapping_listed : (overlappingEngine.discover overlappingTree).files =
    ["z.b.properties", "a.properties", "m.properties"].map fun name => overlappingEngine.root.join (.ofText name) := by
  rw [overlapping_files]
  decide

theorem overlapping_settles : overlappingEngine.Settles overlappingTree "k" "2" := by
  obtain ⟨_, hload, hunread⟩ := overlapping_loads
  refine ⟨[_], _, [_], overlapping_listed, ?_, ?_⟩
  · rw [FileTree.value?_of_loadFile hload]
    decide
  · intro other hm
    obtain rfl := List.mem_singleton.mp hm
    rw [FileTree.value?, hunread, Option.bind_none]

theorem overlapping_merges : ∀ name ∈ ["z.b.properties", "a.properties"],
    (Format.ofPath? (.ofText name)).isSome = true ∧
      overlappingEngine.admits (overlappingEngine.root.join (.ofText name)) = true := by decide +kernel

theorem last_definition_resaved :
    ((overlappingEngine.reload overlappingTree).2.reloadFile overlappingTree (.ofText "a.properties")).1 = .merged 1 ∧
      ((overlappingEngine.reload overlappingTree).2.reloadFile overlappingTree (.ofText "a.properties")).2.dictionary =
        (overlappingEngine.reload overlappingTree).2.dictionary := by
  obtain ⟨_, hload, _⟩ := overlapping_loads
  obtain ⟨hformat, hadmits⟩ := overlapping_merges "a.properties" (by decide)
  refine ⟨(merged_after_reload_iff _ _ _ _ _).mpr ⟨hformat, hadmits, _, hload, by decide⟩, ?_⟩
  refine (resaved_unchanged_iff overlappingEngine overlappingTree (.ofText "a.properties")).1.mpr ?_
  intro keys _ key value hvalue
  rw [FileTree.value?_of_loadFile hload] at hvalue
  obtain ⟨rfl, rfl⟩ : key = "k" ∧ value = "2" := by simpa using Dictionary.mem_of_getElem?_ofPairs hvalue
  exact overlapping_settles

/-- A file that is listed before another with the key `k` takes the key over when it is saved again. -/
theorem earlier_definition_resaved :
    overlappingTree.WellNamed ∧
      ((overlappingEngine.reload overlappingTree).2.reloadFile overlappingTree (.ofText "z.b.properties")).2.dictionary ≠
        (overlappingEngine.reload overlappingTree).2.dictionary := by
  obtain ⟨hload, _, _⟩ := overlapping_loads
  obtain ⟨hformat, hadmits⟩ := overlapping_merges "z.b.properties" (by decide)
  have hmerged : ((overlappingEngine.reload overlappingTree).2.reloadFile overlappingTree
      (.ofText "z.b.properties")).1 = .merged 1 :=
    (merged_after_reload_iff _ _ _ _ _).mpr ⟨hformat, hadmits, _, hload, by decide⟩
  refine ⟨by decide, fun hsame => ?_⟩
  have hsaved := getElem?_reloadFile hmerged "k"
  rw [hsame, (reload_settles _ _ _ _).mpr overlapping_settles, root_reload, FileTree.value?_of_loadFile hload] at hsaved
  have hvalue : (Dictionary.ofPairs [("k", "1")])["k"]? = some "1" := by decide
  simp [hvalue] at hsaved

theorem mem_discover_iff {tree : FileTree} (ht : tree.WellNamed) {engine : Engine} {base : List String} {node : Node}
    (hr : tree.resolve true engine.root = .ok (base, node)) (hd : node.isDirectory = true) (file : Path) :
    file ∈ (engine.discover tree).files ↔ ∃ names bytes, tree.top.find? (base ++ names) = some (.file bytes) ∧
      engine.filter.admits (.ofNames names) = true ∧ file = Discovery.under engine.root names := by
  have hbelow : ∀ names, tree.top.find? (base ++ names) = node.find? names := by
    intro names
    rw [Node.find?_append, FileTree.find_of_resolve hr, Option.bind_some]
  simp only [discover, filter, Discovery.mem_files_iff ht, hbelow]
  constructor
  · rintro ⟨there, names, bytes, hroot, hf, ha, rfl⟩
    rw [Discovery.rootNode_of_resolve hr hd] at hroot
    obtain rfl := Except.ok.inj hroot
    exact ⟨names, bytes, hf, ha, rfl⟩
  · rintro ⟨names, bytes, hf, ha, rfl⟩
    exact ⟨node, names, bytes, Discovery.rootNode_of_resolve hr hd, hf, ha, rfl⟩

theorem Decides.transfer {engine : Engine} {tree other : FileTree} {key : String}
    (hsame : ∀ file value, (file ∈ (engine.discover tree).files ∧ tree.value? file key = some value) ↔
      (file ∈ (engine.discover other).files ∧ other.value? file key = some value))
    {path : Path} {value : String} (h : engine.Decides tree key path value) : engine.Decides other key path value := by
  obtain ⟨hlisted, hgives⟩ := (hsame path value).mp ⟨h.listed, h.gives⟩
  refine ⟨hlisted, hgives, fun file hm hne hsome => ?_⟩
  obtain ⟨found, hfound⟩ := Option.isSome_iff_exists.mp hsome
  obtain ⟨hm, hfound⟩ := (hsame file found).mpr ⟨hm, hfound⟩
  exact h.last file hm hne (by rw [hfound]; rfl)

section

variable {before after : FileTree} (hbefore : before.WellNamed) (hafter : after.WellNamed) {engine : Engine}
  {root : String} (hroot : engine.root = .ofText root) {names : List String}
  (hsaves : FileTree.SavesBelow engine.root names before after)

include hbefore hafter hsaves

theorem listed_elsewhere_iff {file : Path} (hne : file ≠ engine.root.join (.ofNames names)) (key value : String) :
    (file ∈ (engine.discover before).files ∧ before.value? file key = some value) ↔
      (file ∈ (engine.discover after).files ∧ after.value? file key = some value) := by
  obtain ⟨base, node, hr, hsaved⟩ := hsaves.saves
  have hd := hsaves.file.isDirectory hr
  obtain ⟨old, hold, hdold⟩ := hsaved.resolve hr hd
  have hfile : ∀ others bytes, file = Discovery.under engine.root others →
      (before.top.find? (base ++ others) = some (.file bytes) ↔ after.top.find? (base ++ others) = some (.file bytes)) := by
    intro others bytes hunder
    refine hsaved.find_file_iff (fun heq => hne ?_) bytes
    rw [hunder, List.append_cancel_left heq]
    exact Discovery.under_eq_join engine.root hsaves.file.1 (Discovery.hasFile_names hafter hsaves.file)
  have hvalue : ∀ others bytes, file = Discovery.under engine.root others →
      before.top.find? (base ++ others) = some (.file bytes) → before.value? file key = after.value? file key := by
    intro others bytes hunder hb
    have ha := (hfile others bytes hunder).mp hb
    rw [FileTree.value?, FileTree.value?, loadFile_congr]
    rw [hunder, FileTree.node_under hbefore hold hb, FileTree.node_under hafter hr ha]
  rw [mem_discover_iff hbefore hold hdold, mem_discover_iff hafter hr hd]
  constructor
  · rintro ⟨⟨others, bytes, hb, hadmits, hunder⟩, hv⟩
    exact ⟨⟨others, bytes, (hfile others bytes hunder).mp hb, hadmits, hunder⟩, by rwa [← hvalue others bytes hunder hb]⟩
  · rintro ⟨⟨others, bytes, ha, hadmits, hunder⟩, hv⟩
    have hb := (hfile others bytes hunder).mpr ha
    exact ⟨⟨others, bytes, hb, hadmits, hunder⟩, by rwa [hvalue others bytes hunder hb]⟩

include hroot

theorem reload_elsewhere {key : String} (hb : before.value? (engine.root.join (.ofNames names)) key = none)
    (ha : after.value? (engine.root.join (.ofNames names)) key = none) :
    (engine.reload before).2.dictionary[key]? = (engine.reload after).2.dictionary[key]? := by
  have hsame : ∀ file value, (file ∈ (engine.discover before).files ∧ before.value? file key = some value) ↔
      (file ∈ (engine.discover after).files ∧ after.value? file key = some value) := by
    intro file value
    -- the saved file has no say on the key in either tree
    by_cases hne : file = engine.root.join (.ofNames names)
    · simp [hne, hb, ha]
    · exact listed_elsewhere_iff hbefore hafter hsaves hne key value
  apply Option.ext
  intro value
  rw [reload_gives_iff hbefore hroot, reload_gives_iff hafter hroot]
  constructor
  · rintro ⟨path, h⟩
    exact ⟨path, h.transfer hsame⟩
  · rintro ⟨path, h⟩
    exact ⟨path, h.transfer fun file value => (hsame file value).symm⟩

/-- Laying a saved file over what a reload left before it was saved gives what a reload gives now, if the
file still has all keys it had and no file listed later has one of its keys. -/
theorem saved_agrees_with_reload {path : Path} (hplain : engine.root.join path = engine.root.join (.ofNames names))
    (hformat : (Format.ofPath? path).isSome = true) (hadmits : engine.admits (engine.root.join path) = true)
    {entries : Dictionary} (hloads : loadFile after (engine.root.join path) = .ok entries)
    (hkept : ∀ key, (before.value? (engine.root.join path) key).isSome = true →
      (after.value? (engine.root.join path) key).isSome = true)
    (hlast : ∀ other, [engine.root.join path, other].Sublist (engine.discover after).files →
      ∀ key, (after.value? (engine.root.join path) key).isSome = true → after.value? other key = none) :
    ((engine.reload before).2.reloadFile after path).2.dictionary = (engine.reload after).2.dictionary := by
  have hmerged : ((engine.reload before).2.reloadFile after path).1 = .merged entries.size :=
    (merged_after_reload_iff _ _ _ _ _).mpr ⟨hformat, hadmits, entries, hloads, rfl⟩
  have hlisted : engine.root.join path ∈ (engine.discover after).files := by
    rw [hplain] at hadmits ⊢
    rw [admits_plain hroot hsaves.file.1 (Discovery.hasFile_names hafter hsaves.file)] at hadmits
    exact (Discovery.mem_files_of_hasFile hafter hsaves.file _ _).mpr hadmits
  apply Std.ExtTreeMap.ext_getElem?
  intro key
  rw [getElem?_reloadFile hmerged key, root_reload]
  cases hvalue : after.value? (engine.root.join path) key with
  | some value =>
    have hsettles : engine.Settles after key value := by
      refine settles_of_last hlisted hvalue fun other hlater => Or.inl ?_
      exact hlast other hlater key (by rw [hvalue]; rfl)
    rw [Option.some_or, (reload_settles engine after key value).mpr hsettles]
  | none =>
    have hnone : before.value? (engine.root.join path) key = none := by
      by_contra hsome
      simpa [hvalue] using hkept key (Option.isSome_iff_ne_none.mpr hsome)
    rw [hplain] at hvalue hnone
    rw [Option.none_or, reload_elsewhere hbefore hafter hroot hsaves hnone hvalue]

end

def emptiedTree : FileTree := overlappingTree.put ["p", "a.properties"] (.file .empty)

theorem overlapping_saves : FileTree.SavesBelow (.ofText "/p") ["a.properties"] emptiedTree overlappingTree where
  file := ⟨by decide, overlapping, ⟨#[107, 61, 50]⟩, by cbv, rfl⟩
  saves := by
    refine ⟨["p"], overlapping, by cbv, ?_⟩
    refine FileTree.saves_put ⟨#[107, 61, 50]⟩ (fun there hthere => ⟨.empty, ?_⟩) fun _ => rfl
    exact (Option.some.inj hthere).symm

theorem new_definition_saved :
    emptiedTree.WellNamed ∧ overlappingTree.WellNamed ∧
      FileTree.SavesBelow (.ofText "/p") ["a.properties"] emptiedTree overlappingTree ∧
      ((overlappingEngine.reload emptiedTree).2.reloadFile overlappingTree (.ofText "a.properties")).2.dictionary =
        (overlappingEngine.reload overlappingTree).2.dictionary := by
  obtain ⟨_, hload, hunread⟩ := overlapping_loads
  obtain ⟨hformat, hadmits⟩ := overlapping_merges "a.properties" (by decide)
  have hempty : loadFile emptiedTree (overlappingEngine.root.join (.ofText "a.properties")) = .ok ∅ := by cbv
  have hbefore : emptiedTree.WellNamed := by decide
  have hafter : overlappingTree.WellNamed := by decide
  have hroot : overlappingEngine.root = .ofText "/p" := rfl
  refine ⟨hbefore, hafter, overlapping_saves, ?_⟩
  refine saved_agrees_with_reload hbefore hafter hroot overlapping_saves (by decide) hformat hadmits hload ?_ ?_
  · intro key hkey
    simp [FileTree.value?_of_loadFile hempty] at hkey
  · intro other hlater key _
    obtain rfl : other = overlappingEngine.root.join (.ofText "m.properties") := by
      have hne : overlappingEngine.root.join (.ofText "a.properties") ≠
        overlappingEngine.root.join (.ofText "z.b.properties") := by decide
      rw [overlapping_listed] at hlater
      simpa [List.sublist_cons_iff, hne] using hlater
    rw [FileTree.value?, hunread, Option.bind_none]

end Engine

end Gloss
