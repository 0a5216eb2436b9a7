import Gloss.Json.Reader
import Gloss.Proofs.Entries
import Mathlib

namespace Gloss.Json

/-- No object in a value has two members of one name. -/
inductive Unambiguous : Json → Prop
  | null : Unambiguous .null
  | bool (b : Bool) : Unambiguous (.bool b)
  | number (n : Number) : Unambiguous (.number n)
  | text (s : String) : Unambiguous (.text s)
  | list {items : List Json} (values : ∀ j ∈ items, Unambiguous j) : Unambiguous (.list items)
  | object {members : List (String × Json)} (distinct : (members.map (·.1)).Nodup)
      (values : ∀ m ∈ members, Unambiguous m.2) : Unambiguous (.object members)

theorem Unambiguous.distinct {members : List (String × Json)} (h : Unambiguous (.object members)) :
    (members.map (·.1)).Nodup := by cases h with | object distinct _ => exact distinct

theorem Unambiguous.member {j child : Json} (h : j.Unambiguous) {name : String} (hc : j.member? name = some child) :
    child.Unambiguous := by
  cases h with
  | object distinct values => exact values _ ((Entries.lookup_eq_some_iff distinct name child).mp hc)
  | _ => cases hc

theorem Unambiguous.put {members : List (String × Json)} (h : Unambiguous (.object members)) (name : String)
    {value : Json} (hvalue : value.Unambiguous) : Unambiguous (.object (Json.put members name value)) := by
  cases h with
  | object distinct values =>
    refine .object (Entries.nodup_put (Json.put · name value) rfl (fun _ _ => rfl) distinct) fun m hm => ?_
    rcases Entries.mem_put (Json.put · name value) rfl (fun _ _ => rfl) hm with rfl | hm
    · exact hvalue
    · exact values m hm

theorem unambiguous_ofMembers {written : List (String × Json)} (h : ∀ m ∈ written, m.2.Unambiguous) :
    (ofMembers written).Unambiguous := by
  have hunder : ∀ members, Unambiguous (.object members) →
      Unambiguous (.object (written.foldl (fun ms m => put ms m.1 m.2) members)) := by
    induction written with
    | nil => exact fun _ hmembers => hmembers
    | cons m written ih =>
      obtain ⟨hm, hwritten⟩ := List.forall_mem_cons.mp h
      exact fun members hmembers => ih hwritten _ (hmembers.put m.1 hm)
  exact hunder [] (.object (by simp) (by simp))

namespace Reader

variable {α β : Type}

def Gives (property : α → Prop) (reader : Reader α) : Prop :=
  ∀ c x c', reader c = .ok (x, c') → property x

theorem gives_pure {property : α → Prop} {x : α} (h : property x) : Gives property (pure x) := by
  intro c y c' hy
  cases hy
  exact h

theorem gives_fail (property : α → Prop) (cause : Cause) : Gives property (fail cause) := by
  intro c x c' h
  cases h

theorem gives_failNext (property : α → Prop) (cause : Cause) : Gives property (failNext cause) := by
  intro c x c' h
  cases h

theorem Gives.bind {property : β → Prop} {earlier : α → Prop} {reader : Reader α} {next : α → Reader β}
    (h : Gives earlier reader) (hnext : ∀ x, earlier x → Gives property (next x)) :
    Gives property (reader >>= next) := by
  intro c y c' hy
  cases hread : reader c with
  | error fault => simp [hread, Bind.bind, StateT.bind, Except.bind] at hy
  | ok found =>
    obtain ⟨x, middle⟩ := found
    simp only [Bind.bind, StateT.bind, Except.bind, hread] at hy
    exact hnext x (h c x middle hread) middle y c' hy

theorem gives_after {property : β → Prop} (reader : Reader α) {next : α → Reader β}
    (h : ∀ x, Gives property (next x)) : Gives property (reader >>= next) := by
  have hany : Gives (fun _ => True) reader := fun _ _ _ _ => trivial
  exact hany.bind fun x _ => h x

theorem gives_items {item : Reader Json} (h : Gives Unambiguous item) (bound : Nat) (first : Bool) :
    Gives (fun js => ∀ j ∈ js, Unambiguous j) (items item bound first) := by
  induction bound generalizing first with
  | zero => exact gives_pure (List.forall_mem_nil _)
  | succ bound ih =>
    refine gives_after _ fun more => ?_
    split
    · refine h.bind fun j hj => (ih false).bind fun js hjs => gives_pure ?_
      exact List.forall_mem_cons.mpr ⟨hj, hjs⟩
    · exact gives_pure (List.forall_mem_nil _)

theorem gives_members {item : Reader Json} (h : Gives Unambiguous item) (bound : Nat) (first : Bool) :
    Gives (fun ms => ∀ m ∈ ms, Unambiguous m.2) (members item bound first) := by
  induction bound generalizing first with
  | zero => exact gives_pure (List.forall_mem_nil _)
  | succ bound ih =>
    refine gives_after _ fun more => ?_
    split
    · refine gives_after _ fun key => gives_after _ fun _ => h.bind fun j hj => (ih false).bind fun ms hms => gives_pure ?_
      exact List.forall_mem_cons.mpr ⟨hj, hms⟩
    · exact gives_pure (List.forall_mem_nil _)

theorem Gives.nest {property : α → Prop} {inside : Reader α} (h : Gives property inside) (depth : Nat) :
    Gives property (nest depth inside) := by
  unfold Reader.nest
  split
  · exact gives_failNext property _
  · exact gives_after _ fun _ => h

theorem gives_value (bound depth : Nat) : Gives Unambiguous (value bound depth) := by
  induction depth with
  | zero => exact gives_failNext _ _
  | succ depth ih =>
    refine gives_after _ fun next => ?_
    split
    · exact gives_fail _ _
    · exact gives_after _ fun _ => gives_after _ fun _ => gives_pure .null
    · exact gives_after _ fun _ => gives_after _ fun _ => gives_pure (.bool true)
    · exact gives_after _ fun _ => gives_after _ fun _ => gives_pure (.bool false)
    · exact gives_after _ fun _ => gives_after _ fun n => gives_pure (.number n)
    · exact gives_after _ fun s => gives_pure (.text s)
    · have hlist : Gives (fun js => ∀ j ∈ js, Unambiguous j) (list bound (value bound depth)) :=
        (gives_items ih bound true).bind fun js hjs => gives_after _ fun _ => gives_pure hjs
      exact (hlist.nest depth).bind fun js hjs => gives_pure (.list hjs)
    · refine Gives.nest ?_ depth
      refine (gives_members ih bound true).bind fun ms hms => gives_after _ fun _ => gives_pure ?_
      exact unambiguous_ofMembers hms
    · split
      · exact gives_after _ fun n => gives_pure (.number n)
      · exact gives_failNext _ _

theorem Gives.whole {property : α → Prop} {reader : Reader α} (h : Gives property reader) :
    Gives property (whole reader) := by
  refine h.bind fun x hx => gives_after _ fun next => ?_
  split
  · exact gives_pure hx
  · exact gives_failNext property _

theorem Gives.run {property : α → Prop} {reader : Nat → Reader α} (h : ∀ bound, Gives property (reader bound))
    {text : String} {x : α} (hx : run reader text = .ok x) : property x := by
  simp only [Reader.run] at hx
  split at hx
  · next hread =>
    obtain rfl := Except.ok.inj hx
    exact (h _).whole _ _ _ hread
  · cases hx

end Reader

theorem unambiguous_of_read {text : String} {j : Json} (h : read text = .ok j) : j.Unambiguous :=
  Reader.Gives.run (fun bound => Reader.gives_value bound Reader.depthLimit) h

end Gloss.Json
