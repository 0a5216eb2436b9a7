import Gloss.Script.Tree

/-!
Walks through trees. The children of a node stand in the order of the text; a visitor says in which order it
comes to them.
-/

namespace Gloss.Script

/-- A visitor comes to each child of a node once. -/
structure Visitor where
  order : Kind → List Tree → List Nat
  once : ∀ k cs, (order k cs).Perm (List.range cs.length)

namespace Tree

mutual

def walk {α : Type} (visitor : Visitor) (find : Tree → List α) : Tree → List α
  | word name => find (word name)
  | text l => find (text l)
  | node k cs =>
    let found := walkAll visitor find cs
    find (node k cs) ++ (visitor.order k cs).flatMap fun i => found[i]?.getD []

def walkAll {α : Type} (visitor : Visitor) (find : Tree → List α) : List Tree → List (List α)
  | [] => []
  | t :: ts => t.walk visitor find :: walkAll visitor find ts

end

end Tree

/-- The fields of a node in the order in which the record of the node has them. A field holds the children of
its kind, and `none` all that have no field of their own. -/
def Kind.fields : Kind → List (Option Kind)
  | .doWhile => [some .test, none]
  | .class =>
    [some .decorators, some .classBody, none, some .typeParameters, some .typeArguments, some .implemented]
  | .field => [some .computedKey, none, some .type, some .decorators]
  | .method => [some .computedKey, some .parameters, some .decorators, none, some .typeParameters, some .type]
  | .function => [some .parameters, some .decorators, none, some .typeParameters, some .type]
  | .arrow => [some .parameters, none, some .typeParameters, some .type]
  | .call | .optionalCall | .new => [none, some .arguments, some .typeArguments]
  | .assertion => [none, some .type]
  | .opening => [none, some .typeArguments]
  | .functionType => [some .parameters, some .typeParameters, none]
  | .signature => [some .computedKey, some .parameters, some .type, none]
  | .importType => [some .typeArguments, none]
  | _ => [none]

namespace Visitor

def fieldOf (fields : List (Option Kind)) (t : Tree) : Option Kind :=
  if t.kind? ∈ fields then t.kind? else none

def fieldOrder (k : Kind) (cs : List Tree) : List Nat :=
  (k.fields.flatMap fun field => cs.zipIdx.filter (fieldOf k.fields ·.1 = field)).map (·.2)

theorem perm_flatMap_filter {α β : Type} [DecidableEq β] (f : α → β) {keys : List β} (hkeys : keys.Nodup) {l : List α}
    (h : ∀ a ∈ l, f a ∈ keys) : (keys.flatMap fun key => l.filter (f · = key)).Perm l := by
  induction keys generalizing l with
  | nil =>
    cases l with
    | nil => exact .nil
    | cons a l => cases h a List.mem_cons_self
  | cons key keys ih =>
    obtain ⟨hkey, hkeys⟩ := List.nodup_cons.mp hkeys
    let others := l.filter fun a => !decide (f a = key)
    have hrest : (keys.flatMap fun key' => l.filter (f · = key')) = keys.flatMap fun key' => others.filter (f · = key') := by
      rw [List.flatMap_def, List.flatMap_def]
      refine congrArg _ (List.map_congr_left fun key' hmem => ?_)
      rw [List.filter_filter]
      refine List.filter_congr fun a _ => ?_
      have hne : key' ≠ key := fun he => hkey (he ▸ hmem)
      by_cases ha : f a = key' <;> simp [ha, hne]
    have hothers : ∀ a ∈ others, f a ∈ keys := by
      intro a ha
      obtain ⟨ha, hne⟩ := List.mem_filter.mp ha
      exact (List.mem_cons.mp (h a ha)).resolve_left (by simpa using hne)
    rw [List.flatMap_cons, hrest]
    exact ((ih hkeys hothers).append_left _).trans (List.filter_append_perm ..)

theorem fieldOf_mem {fields : List (Option Kind)} (h : none ∈ fields) (t : Tree) : fieldOf fields t ∈ fields := by
  unfold fieldOf
  split
  · assumption
  · exact h

theorem fieldOrder_perm (k : Kind) (cs : List Tree) : (fieldOrder k cs).Perm (List.range cs.length) := by
  have hfields : k.fields.Nodup ∧ none ∈ k.fields := by cases k <;> decide
  have hperm := perm_flatMap_filter (fun c : Tree × Nat => fieldOf k.fields c.1) hfields.1 (l := cs.zipIdx)
    fun c _ => fieldOf_mem hfields.2 c.1
  have hrange : cs.zipIdx.map (·.2) = List.range cs.length := by
    rw [List.zipIdx_map_snd, List.range_eq_range']
  rw [← hrange]
  exact hperm.map _

def byFields : Visitor := ⟨fieldOrder, fieldOrder_perm⟩

end Visitor

end Gloss.Script
