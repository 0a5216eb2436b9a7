import Gloss.Proofs.Engine.History

/-!
A dictionary to which every changed file was reported has all keys that a reload would find. It may have
others besides, of files that lost a key or are gone.
-/

namespace Gloss

namespace Path

def Spells (root : Path) (names : List String) (path : Path) : Prop :=
  names ≠ [] ∧ path = .ofNames names ∨ path.rooted = true ∧ path = Discovery.under root names

theorem Spells.join {root path : Path} {names : List String} (h : Spells root names path) (hnames : AreNames names) :
    root.join path = Discovery.under root names := by
  rcases h with ⟨hn, rfl⟩ | ⟨hrooted, rfl⟩
  · rw [Discovery.under_eq_join root hn hnames]
  · rw [Path.join, if_pos hrooted]

theorem fileName?_under (root : Path) {names : List String} (hn : names ≠ []) (h : AreNames names) :
    (Discovery.under root names).fileName? = (ofNames names).fileName? := by
  obtain ⟨front, s, rfl⟩ := (List.eq_nil_or_concat names).resolve_left hn
  rw [List.concat_eq_append] at *
  have hs : isVoid s = false := (h s (by simp)).1
  rw [Discovery.under_eq_join root hn h, fileName?, fileName?, parts_join_names root hn h, parts_names h]
  simp [trimEnd, hs]

theorem Spells.format {root path : Path} {names : List String} (h : Spells root names path) (hnames : AreNames names) :
    Format.ofPath? path = Format.ofPath? (Discovery.under root names) := by
  rcases h with ⟨hn, rfl⟩ | ⟨_, rfl⟩
  · rw [Format.ofPath?, Format.ofPath?, extension?, extension?, fileName?_under root hn hnames]
  · rfl

end Path

namespace FileTree

def FileBelow (tree : FileTree) (root : Path) (names : List String) (bytes : ByteArray) : Prop :=
  ∃ node, Discovery.rootNode tree root = .ok node ∧ node.find? names = some (.file bytes)

def Rewrites (root : Path) (names : List String) (before after : FileTree) : Prop :=
  ∃ bytes, after.FileBelow root names bytes ∧ ¬ before.FileBelow root names bytes

theorem FileBelow.areNames {tree : FileTree} (ht : tree.WellNamed) {root : Path} {names : List String} {bytes : ByteArray}
    (h : tree.FileBelow root names bytes) : Path.AreNames names := by
  obtain ⟨node, hr, hf⟩ := h
  exact ((Discovery.rootNode_wellNamed ht hr).find hf).1

theorem FileBelow.node {tree : FileTree} {root : Path} {names : List String} (hnames : Path.AreNames names)
    {bytes : ByteArray} (h : tree.FileBelow root names bytes) :
    tree.node (Discovery.under root names) = .ok (.file bytes) := by
  obtain ⟨node, hr, hf⟩ := h
  obtain ⟨base, hroot⟩ := Discovery.resolve_of_rootNode hr (Node.not_link_of_find hf)
  exact node_of_resolve (resolve_under hroot hnames hf)

theorem format_of_value? {tree : FileTree} {path : Path} {key : String} (h : (tree.value? path key).isSome = true) :
    (Format.ofPath? path).isSome = true := by
  by_contra hnone
  rw [Bool.not_eq_true, Option.isSome_eq_false_iff, Option.isNone_iff_eq_none] at hnone
  unfold value? loadFile Format.parseFile at h
  rw [hnone] at h
  cases hr : tree.readText path <;> simp [hr, Except.mapError, Except.toOption] at h

end FileTree

namespace Engine

theorem reload_has_iff (engine : Engine) (tree : FileTree) (key : String) :
    (engine.reload tree).2.dictionary[key]?.isSome = true ↔
      ∃ path ∈ (engine.discover tree).files, (tree.value? path key).isSome = true := by
  rw [getElem?_reload, List.findSome?_isSome_iff]
  simp only [List.mem_reverse]

theorem mem_discover_files_iff {tree : FileTree} (ht : tree.WellNamed) (engine : Engine) (file : Path) :
    file ∈ (engine.discover tree).files ↔ ∃ names bytes, tree.FileBelow engine.root names bytes ∧
      engine.filter.admits (.ofNames names) = true ∧ file = Discovery.under engine.root names := by
  rw [discover, Discovery.mem_files_iff ht]
  constructor
  · rintro ⟨node, names, bytes, hr, hf, ha, rfl⟩
    exact ⟨names, bytes, ⟨node, hr, hf⟩, ha, rfl⟩
  · rintro ⟨names, bytes, ⟨node, hr, hf⟩, ha, rfl⟩
    exact ⟨node, names, bytes, hr, hf, ha, rfl⟩

end Engine

def Event.rebuilds : Event → Bool
  | .act .reload | .act (.reconfigure _) => true
  | _ => false

namespace Session

/-- Each event that rewrites the file is followed by one that reports it. -/
def Reports (s : Session) (names : List String) : List Event → Prop
  | [] => True
  | e :: events =>
    (FileTree.Rewrites s.engine.root names s.tree (s.next e).tree →
      ∃ path, Event.act (.reloadFile path) ∈ events ∧ Path.Spells s.engine.root names path) ∧
    (s.next e).Reports names events

@[simp] theorem reports_act (s : Session) (names : List String) (action : Engine.Action) (events : List Event) :
    s.Reports names (.act action :: events) ↔ (s.next (.act action)).Reports names events := by
  refine and_iff_right ?_
  -- the files are the same before and after
  rintro ⟨bytes, hafter, hbefore⟩
  exact absurd hafter hbefore

/-- The dictionary has all keys of a file as it is now. -/
def Covers (s : Session) (names : List String) : Prop :=
  (∃ bytes, s.tree.FileBelow s.engine.root names bytes) →
    ∀ key : String, (s.tree.value? (Discovery.under s.engine.root names) key).isSome = true →
      s.engine.dictionary[key]?.isSome = true

section

variable {s : Session} {e : Event} (he : e.rebuilds = false)

include he

theorem next_grows : (s.next e).engine.root = s.engine.root ∧ (s.next e).engine.config = s.engine.config ∧
    ∀ key : String, s.engine.dictionary[key]?.isSome = true → (s.next e).engine.dictionary[key]?.isSome = true := by
  cases e with
  | change after => exact ⟨rfl, rfl, fun _ h => h⟩
  | act action =>
    cases action with
    | reload => cases he
    | reconfigure patch => cases he
    | reloadFile path =>
      have hnext : (s.next (.act (.reloadFile path))).engine = (s.engine.reloadFile s.tree path).2 := rfl
      rw [hnext]
      rcases s.engine.reloadFile_cases s.tree path with ⟨entries, _, hmerged⟩ | ⟨_, hkept⟩
      · rw [hmerged]
        refine ⟨rfl, rfl, fun key h => ?_⟩
        rw [Dictionary.getElem?_overlay, Option.isSome_or, h, Bool.or_true]
      · rw [hkept]
        exact ⟨rfl, rfl, fun _ h => h⟩
    | _ => exact ⟨rfl, rfl, fun _ h => h⟩

theorem covers_next {names : List String} (hnames : Path.AreNames names) (h : s.Covers names)
    (hsame : ¬ FileTree.Rewrites s.engine.root names s.tree (s.next e).tree) : (s.next e).Covers names := by
  obtain ⟨hroot, _, hgrows⟩ := next_grows (s := s) he
  rintro ⟨bytes, hfile⟩ key hkey
  rw [hroot] at hfile hkey
  have hbefore : s.tree.FileBelow s.engine.root names bytes := by
    by_contra hnot
    exact hsame ⟨bytes, hfile, hnot⟩
  refine hgrows key (h ⟨bytes, hbefore⟩ key ?_)
  rw [FileTree.value?, loadFile_congr ((hbefore.node hnames).trans (hfile.node hnames).symm)]
  exact hkey

end

section

variable {s : Session} {root : String} (hroot : s.engine.root = .ofText root) {names : List String}
  (hadmits : s.engine.filter.admits (.ofNames names) = true)

include hroot hadmits

theorem covers_reported (hnames : Path.AreNames names)
    (hformat : (Format.ofPath? (Discovery.under s.engine.root names)).isSome = true) {path : Path}
    (hpath : Path.Spells s.engine.root names path) : (s.next (.act (.reloadFile path))).Covers names := by
  obtain ⟨hsame, _, _⟩ := next_grows (s := s) (e := .act (.reloadFile path)) rfl
  rintro ⟨bytes, _⟩ key hkey
  rw [hsame] at hkey
  change (s.tree.value? (Discovery.under s.engine.root names) key).isSome = true at hkey
  have hjoin := hpath.join hnames
  cases hl : loadFile s.tree (Discovery.under s.engine.root names) with
  | error e =>
    rw [FileTree.value?, hl] at hkey
    cases hkey
  | ok entries =>
    have hlooks : s.engine.admits (s.engine.root.join path) = true := by
      rw [hjoin, Engine.admits, hroot, Discovery.isDiscoverable_under root hnames]
      exact hadmits
    have hmerged : (s.engine.reloadFile s.tree path).1 = .merged entries.size :=
      (Engine.merged_iff _ _ _ _).mpr ⟨by rwa [hpath.format hnames], hlooks, entries, by rwa [hjoin], rfl⟩
    change (s.engine.reloadFile s.tree path).2.dictionary[key]?.isSome = true
    rw [Engine.getElem?_reloadFile hmerged, hjoin, Option.isSome_or]
    exact Bool.or_eq_true_iff.mpr (.inl hkey)

theorem covers_run (hnames : Path.AreNames names)
    (hformat : (Format.ofPath? (Discovery.under s.engine.root names)).isSome = true) {events : List Event}
    (hkeeps : ∀ e ∈ events, e.rebuilds = false) (hreports : s.Reports names events)
    (hstart : s.Covers names ∨
      ∃ path, Event.act (.reloadFile path) ∈ events ∧ Path.Spells s.engine.root names path) :
    (s.run events).Covers names := by
  induction events generalizing s with
  | nil => exact hstart.resolve_right (by simp)
  | cons e events ih =>
    obtain ⟨hkeep, hkeeps⟩ := List.forall_mem_cons.mp hkeeps
    obtain ⟨hroot', hconfig', _⟩ := next_grows (s := s) hkeep
    obtain ⟨hrewritten, hreports⟩ := hreports
    have hadmits' : (s.next e).engine.filter.admits (.ofNames names) = true := by
      rwa [Engine.filter, hconfig']
    refine ih (hroot'.trans hroot) hadmits' (by rwa [hroot']) hkeeps hreports ?_
    rw [hroot']
    -- once the file is rewritten its keys may be missing, and then a report of it is still to come
    rcases hstart with hcovers | ⟨path, hm, hpath⟩
    · by_cases hrewrites : FileTree.Rewrites s.engine.root names s.tree (s.next e).tree
      · exact .inr (hrewritten hrewrites)
      · exact .inl (covers_next hkeep hnames hcovers hrewrites)
    · rcases List.mem_cons.mp hm with rfl | hm
      · exact .inl (covers_reported hroot hadmits hnames hformat hpath)
      · exact .inr ⟨path, hm, hpath⟩

end

theorem run_keeps_settings {s : Session} {events : List Event} (hkeeps : ∀ e ∈ events, e.rebuilds = false) :
    (s.run events).engine.root = s.engine.root ∧ (s.run events).engine.config = s.engine.config := by
  induction events generalizing s with
  | nil => exact ⟨rfl, rfl⟩
  | cons e events ih =>
    obtain ⟨hkeep, hkeeps⟩ := List.forall_mem_cons.mp hkeeps
    obtain ⟨hroot, hconfig, _⟩ := next_grows (s := s) hkeep
    obtain ⟨hroots, hconfigs⟩ := ih (s := s.next e) hkeeps
    exact ⟨hroots.trans hroot, hconfigs.trans hconfig⟩

def loaded (engine : Engine) (tree : FileTree) : Session := ⟨tree, (engine.reload tree).2⟩

@[simp] theorem root_loaded (engine : Engine) (tree : FileTree) : (loaded engine tree).engine.root = engine.root := by
  simp only [loaded, Engine.root_reload]

@[simp] theorem filter_loaded (engine : Engine) (tree : FileTree) :
    (loaded engine tree).engine.filter = engine.filter := by
  simp only [loaded, Engine.reload, Engine.filter]

theorem covers_loaded {tree : FileTree} (ht : tree.WellNamed) {engine : Engine} {names : List String}
    (hadmits : engine.filter.admits (.ofNames names) = true) : (loaded engine tree).Covers names := by
  rw [Covers, root_loaded]
  rintro ⟨bytes, hfile⟩ key hkey
  have hlisted : Discovery.under engine.root names ∈ (engine.discover tree).files :=
    (Engine.mem_discover_files_iff ht engine _).mpr ⟨names, bytes, hfile, hadmits, rfl⟩
  exact (Engine.reload_has_iff engine tree key).mpr ⟨_, hlisted, hkey⟩

/-- After a reload no current key gets lost: if each file that was changed or created below the root was
reported after that, the dictionary has every key that a reload would give now. -/
theorem current_keys_kept {start : FileTree} (hstart : start.WellNamed) {engine : Engine} {root : String}
    (hroot : engine.root = .ofText root) {events : List Event} (hkeeps : ∀ e ∈ events, e.rebuilds = false)
    (hend : ((loaded engine start).run events).tree.WellNamed)
    (hreported : ∀ names bytes, ((loaded engine start).run events).tree.FileBelow engine.root names bytes →
      engine.filter.admits (.ofNames names) = true →
      (Format.ofPath? (Discovery.under engine.root names)).isSome = true → (loaded engine start).Reports names events) :
    ∀ key : String, (engine.reload ((loaded engine start).run events).tree).2.dictionary[key]?.isSome = true →
      ((loaded engine start).run events).engine.dictionary[key]?.isSome = true := by
  intro key hkey
  obtain ⟨file, hlisted, hvalue⟩ := (Engine.reload_has_iff engine _ key).mp hkey
  obtain ⟨names, bytes, hfile, hadmits, rfl⟩ := (Engine.mem_discover_files_iff hend engine _).mp hlisted
  have hformat := FileTree.format_of_value? hvalue
  have hcovers : ((loaded engine start).run events).Covers names := by
    refine covers_run ((root_loaded engine start).trans hroot) ?_ (hfile.areNames hend) ?_ hkeeps
      (hreported names bytes hfile hadmits hformat) (.inl (covers_loaded hstart hadmits))
    · rwa [filter_loaded]
    · rwa [root_loaded]
  have hsame := (run_keeps_settings hkeeps).1.trans (root_loaded engine start)
  rw [Covers, hsame] at hcovers
  exact hcovers ⟨bytes, hfile⟩ key hvalue

def oneFileTree (bytes : ByteArray) : FileTree := Engine.besideTree.put ["p", "a.properties"] (.file bytes)

theorem oneFileTree_fileBelow_iff (bytes : ByteArray) {names : List String} {found : ByteArray} :
    (oneFileTree bytes).FileBelow (.ofText "/p") names found ↔ names = ["a.properties"] ∧ found = bytes := by
  have hroot : Discovery.rootNode (oneFileTree bytes) (.ofText "/p") =
    .ok (.directory [("a.properties", .file bytes)]) := by cbv
  rw [FileTree.FileBelow, hroot]
  rcases names with _ | ⟨name, rest⟩
  · simp
  · by_cases hname : name = "a.properties"
    · cases rest <;> simp [Node.entry?, hname, eq_comm]
    · have hother : (name == "a.properties") = false := beq_eq_false_iff_ne.mpr hname
      simp [Node.entry?, List.lookup_cons, hother, hname]

def mending : List Event :=
  [.change (oneFileTree ⟨#[255]⟩), .act (.reloadFile (.ofText "a.properties")),
    .change (oneFileTree ⟨#[107, 61, 50]⟩), .act (.reloadFile (.ofText "a.properties"))]

theorem tree_run_mending (s : Session) : (s.run mending).tree = oneFileTree ⟨#[107, 61, 50]⟩ := rfl

theorem mending_reports {s : Session} (hroot : s.engine.root = .ofText "/p") : s.Reports ["a.properties"] mending := by
  have hspells : Path.Spells (.ofText "/p") ["a.properties"] (.ofText "a.properties") := .inl (by decide)
  refine ⟨fun _ => ⟨_, .head _, by rwa [hroot]⟩, (reports_act _ _ _ _).mpr ⟨fun _ => ⟨_, .head _, ?_⟩, ?_⟩⟩
  · rw [(next_grows (by rfl)).1]
    exact hroot ▸ hspells
  · exact (reports_act _ _ _ _).mpr trivial

theorem mended_has_key :
    (Engine.plainEngine.reload (oneFileTree ⟨#[107, 61, 50]⟩)).2.dictionary["k"]?.isSome = true := by
  have hfile : (oneFileTree ⟨#[107, 61, 50]⟩).FileBelow (.ofText "/p") ["a.properties"] ⟨#[107, 61, 50]⟩ :=
    (oneFileTree_fileBelow_iff _).mpr ⟨rfl, rfl⟩
  have hlisted := (Engine.mem_discover_files_iff (by decide) Engine.plainEngine _).mpr
    ⟨_, _, hfile, by decide +kernel, rfl⟩
  exact (Engine.reload_has_iff _ _ _).mpr ⟨_, hlisted, by cbv⟩

theorem mended_file_reported :
    Engine.besideTree.WellNamed ∧ ((loaded Engine.plainEngine Engine.besideTree).run mending).tree.WellNamed ∧
      (loaded Engine.plainEngine Engine.besideTree).Reports ["a.properties"] mending ∧
      ((loaded Engine.plainEngine Engine.besideTree).run mending).engine.dictionary["k"]?.isSome = true := by
  have hroot : Engine.plainEngine.root = .ofText "/p" := rfl
  have hstart : Engine.besideTree.WellNamed := by decide
  have hmended : (oneFileTree ⟨#[107, 61, 50]⟩).WellNamed := by decide
  have hend : ((loaded Engine.plainEngine Engine.besideTree).run mending).tree.WellNamed := by
    rw [tree_run_mending]
    exact hmended
  have hreports : (loaded Engine.plainEngine Engine.besideTree).Reports ["a.properties"] mending :=
    mending_reports (root_loaded _ _)
  refine ⟨hstart, hend, hreports, current_keys_kept hstart hroot (by decide) hend ?_ "k" ?_⟩
  · intro names bytes hfile _ _
    rw [tree_run_mending, hroot] at hfile
    obtain ⟨rfl, _⟩ := (oneFileTree_fileBelow_iff _).mp hfile
    exact hreports
  · rw [tree_run_mending]
    exact mended_has_key

end Session

end Gloss
