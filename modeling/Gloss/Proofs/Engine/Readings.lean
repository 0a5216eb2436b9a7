import Gloss.Proofs.Dictionary.Keys
import Gloss.Proofs.Engine.History

namespace Gloss

structure Reading where
  tree : FileTree
  path : Path

def Reading.Gives (r : Reading) (key value : String) : Prop :=
  ∃ text entries, r.tree.readText r.path = .ok text ∧ Format.parseFile r.path text = .ok entries ∧
    entries[key]? = some value

def Reading.value? (r : Reading) (key : String) : Option String := r.tree.value? r.path key

theorem Reading.gives_iff (r : Reading) (key value : String) : r.Gives key value ↔ r.value? key = some value := by
  unfold Gives value? FileTree.value? loadFile
  cases r.tree.readText r.path with
  | error e => simp [Except.toOption]
  | ok text => cases hparse : Format.parseFile r.path text <;> simp [hparse, Except.toOption, Except.mapError]

def Engine.readings (engine : Engine) (tree : FileTree) : List Reading :=
  (engine.discover tree).files.map (⟨tree, ·⟩)

namespace Session

def readBy (s : Session) (earlier : List Reading) : Engine.Action → List Reading
  | .reload => s.engine.readings s.tree
  | .reloadFile path =>
    match (s.engine.reloadFile s.tree path).1 with
    | .merged _ => earlier ++ [⟨s.tree, s.engine.root.join path⟩]
    | _ => earlier
  | .reconfigure patch =>
    match s.engine.reconfigure s.tree patch with
    | .ok (_, after) => after.readings s.tree
    | .error _ => earlier
  | _ => earlier

def readings (s : Session) (earlier : List Reading) : List Event → List Reading
  | [] => earlier
  | .change after :: events => (s.next (.change after)).readings earlier events
  | .act action :: events => (s.next (.act action)).readings (s.readBy earlier action) events

end Session

namespace Engine

def Holds (engine : Engine) (readings : List Reading) : Prop :=
  ∀ key, engine.dictionary[key]? = readings.reverse.findSome? (·.value? key)

@[simp] theorem readings_reload (engine : Engine) (tree other : FileTree) :
    (engine.reload tree).2.readings other = engine.readings other := by
  simp only [reload, readings, discover]

theorem holds_reload (engine : Engine) (tree : FileTree) : (engine.reload tree).2.Holds (engine.readings tree) := by
  intro key
  rw [getElem?_reload, readings, ← List.map_reverse, List.findSome?_map]
  rfl

theorem holds_reconfigure {engine after : Engine} {tree : FileTree} {patch : Patch} {summary : Summary}
    (h : engine.reconfigure tree patch = .ok (summary, after)) : after.Holds (after.readings tree) := by
  have hvalid := reconfigure_ok_iff.mp ⟨_, h⟩
  rw [reconfigure_valid hvalid] at h
  obtain rfl := congrArg Prod.snd (Except.ok.inj h)
  rw [readings_reload]
  exact holds_reload _ tree

end Engine

namespace Session

theorem holds_act {s : Session} {earlier : List Reading} (h : s.engine.Holds earlier) (action : Engine.Action) :
    (s.next (.act action)).engine.Holds (s.readBy earlier action) := by
  cases action with
  | reload => exact s.engine.holds_reload s.tree
  | reloadFile path =>
    rcases s.engine.reloadFile_cases s.tree path with ⟨entries, _, hmerged⟩ | ⟨hnot, hkept⟩
    · have hm := congrArg Prod.fst hmerged
      intro key
      simp only [readBy, hm, List.reverse_append, List.reverse_singleton, List.singleton_append, List.findSome?_cons]
      rw [next, Engine.act, Engine.getElem?_reloadFile hm key, h key, Reading.value?]
      dsimp only
      cases s.tree.value? (s.engine.root.join path) key <;> rfl
    · have hread : s.readBy earlier (.reloadFile path) = earlier := by
        cases houtcome : (s.engine.reloadFile s.tree path).1 with
        | merged keys => exact absurd houtcome (hnot keys)
        | _ => simp only [readBy, houtcome]
      have hengine : (s.next (.act (.reloadFile path))).engine = s.engine := hkept
      rw [hread, hengine]
      exact h
  | reconfigure patch =>
    cases hr : s.engine.reconfigure s.tree patch with
    | ok found =>
      obtain ⟨summary, after⟩ := found
      simp only [next, Engine.act, readBy, hr]
      exact Engine.holds_reconfigure hr
    | error e =>
      simp only [next, Engine.act, readBy, hr]
      exact h
  | _ => exact h

/-- In every run the dictionary holds what was read since it was last built anew. -/
theorem holds_run {s : Session} {earlier : List Reading} (h : s.engine.Holds earlier) (events : List Event) :
    (s.run events).engine.Holds (s.readings earlier events) := by
  induction events generalizing s earlier with
  | nil => exact h
  | cons e events ih =>
    cases e with
    | change after => exact ih h
    | act action => exact ih (holds_act h action)

/-- Every entry of a dictionary has a key that is not empty and stood in a file that was read since the
dictionary was last built anew. Nothing else is changed by what is asked of an engine. -/
theorem entries_were_read (root : Path) (config : Config) (tree : FileTree) (events : List Event) :
    let s : Session := ⟨tree, { root, config }⟩
    (∀ key value, (s.run events).engine.dictionary[key]? = some value →
      key ≠ "" ∧ ∃ r ∈ s.readings [] events, r.Gives key value) ∧
    ∀ action, ((s.run events).engine.act (s.run events).tree action).1.tellsOfReading = false →
      ((s.run events).engine.act (s.run events).tree action).2 = (s.run events).engine := by
  intro s
  refine ⟨fun key value hvalue => ?_, fun action h => Engine.act_unchanged h⟩
  have hempty : s.engine.Holds [] := by
    intro key
    simp [s]
  rw [holds_run hempty events key] at hvalue
  obtain ⟨r, hm, hr⟩ := List.exists_of_findSome?_eq_some hvalue
  have hgives := (r.gives_iff key value).mpr hr
  refine ⟨?_, r, List.mem_reverse.mp hm, hgives⟩
  obtain ⟨_, _, _, hparse, hentry⟩ := hgives
  exact Format.key_ne_empty hparse hentry

end Session

end Gloss
