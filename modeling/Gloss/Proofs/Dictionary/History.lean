import Gloss.Dictionary.Store
import Gloss.Proofs.Dictionary.Layers
import Mathlib.Data.List.Basic
import Mathlib.Data.List.Induction

namespace Gloss

/-- Some element has the first property, with those before it, and all after it have the second. -/
def Since {α : Type} (p : List α → α → Prop) (q : α → Prop) (xs : List α) : Prop :=
  ∃ before x after, xs = before ++ x :: after ∧ p before x ∧ ∀ later ∈ after, q later

theorem not_since_nil {α : Type} (p : List α → α → Prop) (q : α → Prop) : ¬ Since p q [] := by
  intro ⟨before, x, after, hxs, _⟩
  simp at hxs

theorem since_concat {α : Type} (p : List α → α → Prop) (q : α → Prop) (xs : List α) (last : α) :
    Since p q (xs ++ [last]) ↔ p xs last ∨ (q last ∧ Since p q xs) := by
  constructor
  · intro ⟨before, x, after, hxs, hx, hafter⟩
    -- the element is the last one, or the last one stands after it
    cases List.eq_nil_or_concat' after with
    | inl hnil =>
      subst hnil
      obtain ⟨rfl, hlast⟩ := List.append_inj' hxs rfl
      obtain rfl := List.singleton_inj.mp hlast
      exact .inl hx
    | inr hconcat =>
      obtain ⟨front, y, rfl⟩ := hconcat
      rw [← List.cons_append, ← List.append_assoc] at hxs
      obtain ⟨hfront, hlast⟩ := List.append_inj' hxs rfl
      obtain rfl := List.singleton_inj.mp hlast
      obtain ⟨hbetween, hq⟩ := List.forall_mem_append.mp hafter
      exact .inr ⟨hq last (List.mem_singleton_self last), before, x, front, hfront, hx, hbetween⟩
  · intro h
    cases h with
    | inl hlast => exact ⟨xs, last, [], rfl, hlast, List.forall_mem_nil _⟩
    | inr h =>
      obtain ⟨hq, before, x, after, rfl, hx, hafter⟩ := h
      refine ⟨before, x, after ++ [last], by simp, hx, ?_⟩
      exact List.forall_mem_append.mpr ⟨hafter, List.forall_mem_singleton.mpr hq⟩

namespace Dictionary

def LastGives (layers : List Dictionary) (key value : String) : Prop :=
  Since (fun _ layer => layer[key]? = some value) (fun layer => layer[key]? = none) layers

theorem not_lastGives_nil (key value : String) : ¬ LastGives [] key value := not_since_nil _ _

theorem lastGives_concat (layers : List Dictionary) (last : Dictionary) (key value : String) :
    LastGives (layers ++ [last]) key value ↔
      last[key]? = some value ∨ (last[key]? = none ∧ LastGives layers key value) :=
  since_concat _ _ layers last

theorem getElem?_overlayAll_iff (under : Dictionary) (layers : List Dictionary) (key value : String) :
    (under.overlayAll layers)[key]? = some value ↔
      LastGives layers key value ∨ ((∀ layer ∈ layers, layer[key]? = none) ∧ under[key]? = some value) := by
  induction layers using List.reverseRecOn with
  | nil => simp [not_lastGives_nil]
  | append_singleton layers last ih =>
    have hlast : under.overlayAll (layers ++ [last]) = (under.overlayAll layers).overlay last := by simp [overlayAll]
    rw [hlast, getElem?_overlay, Option.or_eq_some_iff, ih, lastGives_concat, List.forall_mem_append,
      List.forall_mem_singleton]
    tauto

end Dictionary

namespace Write

def layers : Write → List Dictionary
  | load entries => [entries]
  | loadAll layers => layers
  | rebuild layers => layers
  | reset => []

def empties : Write → Bool
  | load _ => false
  | loadAll _ => false
  | rebuild _ => true
  | reset => true

def Spares (w : Write) (key : String) : Prop := w.empties = false ∧ ∀ entries ∈ w.layers, entries[key]? = none

theorem apply_eq (w : Write) (d : Dictionary) :
    w.apply d = (if w.empties then ∅ else d : Dictionary).overlayAll w.layers := by
  cases w <;> rfl

theorem getElem?_apply_iff (w : Write) (d : Dictionary) (key value : String) :
    (w.apply d)[key]? = some value ↔
      Dictionary.LastGives w.layers key value ∨ (w.Spares key ∧ d[key]? = some value) := by
  rw [apply_eq, Dictionary.getElem?_overlayAll_iff, Spares]
  apply or_congr_right
  cases w.empties with
  | true => simp
  | false => simp

end Write

/-- Some write gives the key the value, and all later ones spare the key. -/
def LastWritten (writes : List Write) (key value : String) : Prop :=
  Since (fun _ w => Dictionary.LastGives w.layers key value) (fun w => w.Spares key) writes

theorem not_lastWritten_nil (key value : String) : ¬ LastWritten [] key value := not_since_nil _ _

theorem lastWritten_concat (writes : List Write) (last : Write) (key value : String) :
    LastWritten (writes ++ [last]) key value ↔
      Dictionary.LastGives last.layers key value ∨ (last.Spares key ∧ LastWritten writes key value) :=
  since_concat _ _ writes last

namespace Store

inductive Event
  | write (w : Write)
  | keep (name : String)

def next (store : Store) : Event → Store
  | .write w => store.write w
  | .keep name => store.keep name

def run (store : Store) (events : List Event) : Store := events.foldl next store

@[simp] theorem run_nil (store : Store) : store.run [] = store := rfl

theorem run_concat (store : Store) (events : List Event) (last : Event) :
    store.run (events ++ [last]) = (store.run events).next last := by
  simp [run]

def writesOf : List Event → List Write
  | [] => []
  | .write w :: events => w :: writesOf events
  | .keep _ :: events => writesOf events

theorem writesOf_append (events more : List Event) : writesOf (events ++ more) = writesOf events ++ writesOf more := by
  induction events with
  | nil => rfl
  | cons e events ih => cases e <;> simp [writesOf, ih]

theorem getElem?_run_iff (events : List Event) (key value : String) :
    (({} : Store).run events).current[key]? = some value ↔ LastWritten (writesOf events) key value := by
  induction events using List.reverseRecOn with
  | nil => simp [writesOf, not_lastWritten_nil]
  | append_singleton events last ih =>
    rw [run_concat, writesOf_append]
    cases last with
    | write w =>
      rw [writesOf, writesOf, lastWritten_concat, ← ih]
      exact w.getElem?_apply_iff _ key value
    | keep name =>
      rw [writesOf, writesOf, List.append_nil, ← ih]
      rfl

theorem snapshot?_keep_eq (store : Store) (name other : String) :
    (store.keep other).snapshot? name = if name = other then some store.current else store.snapshot? name := by
  by_cases h : name = other
  · subst h
    simp
  · simp [keep, snapshot?, List.lookup_cons, beq_eq_false_iff_ne.mpr h, h]

theorem snapshot?_run_iff (events : List Event) (name : String) (kept : Dictionary) :
    (({} : Store).run events).snapshot? name = some kept ↔
      Since (fun before e => e = .keep name ∧ (({} : Store).run before).current = kept) (· ≠ .keep name) events := by
  induction events using List.reverseRecOn with
  | nil => simp [not_since_nil, snapshot?]
  | append_singleton events last ih =>
    rw [run_concat, since_concat, ← ih]
    cases last with
    | write w => simp [next]
    | keep other =>
      rw [next, snapshot?_keep_eq, Event.keep.injEq, ne_eq, Event.keep.injEq]
      by_cases h : name = other
      · simp [h]
      · simp [h, Ne.symm h]

theorem write_loadAll (store : Store) (layers : List Dictionary) :
    store.write (.loadAll layers) = layers.foldl (fun s entries => s.write (.load entries)) store := by
  induction layers generalizing store with
  | nil => rfl
  | cons entries layers ih =>
    rw [List.foldl_cons, ← ih]
    rfl

theorem write_rebuild (store : Store) (layers : List Dictionary) :
    store.write (.rebuild layers) = (store.write .reset).write (.loadAll layers) := rfl

/-- Whatever was written to a new store, a key has the value that was written last since the store was emptied
last, and the entries are these in the order of the keys. A write of several mappings is one write after the
other, and a snapshot stays what it was when it was taken. -/
theorem store_is_history (events : List Event) :
    let store := ({} : Store).run events
    (∀ key value, store.current[key]? = some value ↔ LastWritten (writesOf events) key value) ∧
      (∀ key, store.current[key]? = none ↔ ∀ value, ¬ LastWritten (writesOf events) key value) ∧
      (store.current.toList.map (·.1)).Pairwise (· < ·) ∧
      (∀ key value, (key, value) ∈ store.current.toList ↔ store.current[key]? = some value) ∧
      store.current.size = store.current.toList.length ∧
      (store.current.isEmpty = true ↔ store.current.size = 0) ∧
      (∀ layers, store.write (.loadAll layers) = layers.foldl (fun s entries => s.write (.load entries)) store) ∧
      (∀ layers, store.write (.rebuild layers) = (store.write .reset).write (.loadAll layers)) ∧
      ∀ name kept, store.snapshot? name = some kept ↔
        Since (fun before e => e = .keep name ∧ (({} : Store).run before).current = kept) (· ≠ .keep name) events := by
  intro store
  have hget : ∀ key value, store.current[key]? = some value ↔ LastWritten (writesOf events) key value :=
    getElem?_run_iff events
  refine ⟨hget, ?_, store.current.keys_ascend, ?_, Std.ExtTreeMap.length_toList.symm, ?_, store.write_loadAll,
    store.write_rebuild, snapshot?_run_iff events⟩
  · intro key
    rw [Option.eq_none_iff_forall_ne_some]
    exact forall_congr' fun value => not_congr (hget key value)
  · intro key value
    exact Std.ExtTreeMap.mem_toList_iff_getElem?_eq_some
  · rw [Std.ExtTreeMap.isEmpty_eq_size_beq_zero, beq_iff_eq]

end Store

end Gloss
