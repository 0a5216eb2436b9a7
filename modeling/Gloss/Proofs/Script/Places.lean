import Gloss.Script.Calls
import Mathlib.Data.List.Nodup
import Mathlib.Data.List.Perm.Basic

namespace Gloss.Script

namespace Visitor

variable (visitor : Visitor) {k : Kind} {cs : List Tree}

theorem mem_order {i : Nat} : i ∈ visitor.order k cs ↔ i < cs.length := by
  rw [(visitor.once k cs).mem_iff, List.mem_range]

theorem nodup_order : (visitor.order k cs).Nodup := (visitor.once k cs).nodup_iff.mpr List.nodup_range

end Visitor

namespace Tree

@[elab_as_elim]
theorem nodeInduction {motive : Tree → Prop} (word : ∀ name, motive (word name)) (text : ∀ l, motive (text l))
    (node : ∀ k cs, (∀ c ∈ cs, motive c) → motive (node k cs)) (t : Tree) : motive t :=
  @Tree.rec motive (fun cs => ∀ c ∈ cs, motive c) word text node (by simp)
    (fun _ _ ht hts => List.forall_mem_cons.mpr ⟨ht, hts⟩) t

theorem walkAll_eq_map {α : Type} (visitor : Visitor) (find : Tree → List α) (ts : List Tree) :
    walkAll visitor find ts = ts.map (walk visitor find) := by
  induction ts with
  | nil => simp [walkAll]
  | cons t ts ih => simp [walkAll, ih]

theorem walk_node {α : Type} (visitor : Visitor) (find : Tree → List α) (k : Kind) (cs : List Tree) :
    (node k cs).walk visitor find =
      find (node k cs) ++ (visitor.order k cs).flatMap fun i => cs[i]?.elim [] (walk visitor find) := by
  rw [walk, walkAll_eq_map]
  congr 2
  funext i
  cases h : cs[i]? <;> simp [h]

def at? : Tree → List Nat → Option Tree
  | t, [] => some t
  | t, i :: place => t.children[i]?.bind (·.at? place)

@[simp] theorem at?_nil (t : Tree) : t.at? [] = some t := by
  simp [at?]

@[simp] theorem at?_cons (t : Tree) (i : Nat) (place : List Nat) :
    t.at? (i :: place) = t.children[i]?.bind (·.at? place) := by
  simp [at?]

mutual

/-- The places of a tree in the order in which a walk comes to them. -/
def route (visitor : Visitor) : Tree → List (List Nat)
  | word _ => [[]]
  | text _ => [[]]
  | node k cs =>
    let below := routes visitor cs
    [] :: (visitor.order k cs).flatMap fun i => (below[i]?.getD []).map (i :: ·)

def routes (visitor : Visitor) : List Tree → List (List (List Nat))
  | [] => []
  | t :: ts => t.route visitor :: routes visitor ts

end

theorem routes_eq_map (visitor : Visitor) (ts : List Tree) : routes visitor ts = ts.map (route visitor) := by
  induction ts with
  | nil => simp [routes]
  | cons t ts ih => simp [routes, ih]

def routeAt (visitor : Visitor) (cs : List Tree) (i : Nat) : List (List Nat) :=
  cs[i]?.elim [] fun c => (c.route visitor).map (i :: ·)

theorem route_node (visitor : Visitor) (k : Kind) (cs : List Tree) :
    (node k cs).route visitor = [] :: (visitor.order k cs).flatMap (routeAt visitor cs) := by
  rw [route, routes_eq_map]
  congr 2
  funext i
  cases h : cs[i]? <;> simp [routeAt, h]

theorem mem_routeAt {visitor : Visitor} {cs : List Tree} {i : Nat} {place : List Nat} :
    place ∈ routeAt visitor cs i ↔ ∃ c below, cs[i]? = some c ∧ below ∈ c.route visitor ∧ place = i :: below := by
  cases h : cs[i]? <;> simp [routeAt, h, eq_comm]

theorem walk_eq_route {α : Type} (visitor : Visitor) (find : Tree → List α) (t : Tree) :
    t.walk visitor find = (t.route visitor).flatMap fun place => (t.at? place).elim [] find := by
  induction t using nodeInduction with
  | word name => simp [walk, route]
  | text l => simp [walk, route]
  | node k cs ih =>
    rw [walk_node, route_node, List.flatMap_cons, List.flatMap_assoc]
    congr 1
    apply List.flatMap_congr
    intro i _
    cases h : cs[i]? with
    | none => simp [routeAt, h]
    | some c => simp [routeAt, h, List.flatMap_map, children, ih c (List.mem_of_getElem? h)]

theorem isSome_at?_cons {t : Tree} {i : Nat} {place : List Nat} :
    (t.at? (i :: place)).isSome = true ↔ ∃ c, t.children[i]? = some c ∧ (c.at? place).isSome = true := by
  cases h : t.children[i]? <;> simp [h]

theorem cons_mem_routes {visitor : Visitor} {k : Kind} {cs : List Tree} {i : Nat} {place : List Nat} :
    i :: place ∈ (visitor.order k cs).flatMap (routeAt visitor cs) ↔ ∃ c, cs[i]? = some c ∧ place ∈ c.route visitor := by
  rw [List.mem_flatMap]
  constructor
  · rintro ⟨j, _, h⟩
    obtain ⟨c, below, hc, hbelow, hplace⟩ := mem_routeAt.mp h
    obtain ⟨rfl, rfl⟩ := List.cons.inj hplace
    exact ⟨c, hc, hbelow⟩
  · rintro ⟨c, hc, hbelow⟩
    have hi := (List.getElem?_eq_some_iff.mp hc).1
    exact ⟨i, visitor.mem_order.mpr hi, mem_routeAt.mpr ⟨c, place, hc, hbelow, rfl⟩⟩

theorem mem_route (visitor : Visitor) (place : List Nat) (t : Tree) :
    place ∈ t.route visitor ↔ (t.at? place).isSome = true := by
  induction t using nodeInduction generalizing place with
  | word name => cases place <;> simp [route, children]
  | text l => cases place <;> simp [route, children]
  | node k cs ih =>
    rw [route_node, List.mem_cons]
    cases place with
    | nil => simp
    | cons i place =>
      rw [cons_mem_routes, isSome_at?_cons, children, or_iff_right (List.cons_ne_nil i place)]
      exact exists_congr fun c => and_congr_right fun hc => ih c (List.mem_of_getElem? hc) place

theorem nodup_route (visitor : Visitor) (t : Tree) : (t.route visitor).Nodup := by
  induction t using nodeInduction with
  | word name => simp [route]
  | text l => simp [route]
  | node k cs ih =>
    rw [route_node, List.nodup_cons, List.nodup_flatMap]
    refine ⟨?_, fun i _ => ?_, visitor.nodup_order.imp ?_⟩
    · intro h
      obtain ⟨i, _, h⟩ := List.mem_flatMap.mp h
      obtain ⟨c, below, _, _, hplace⟩ := mem_routeAt.mp h
      cases hplace
    · cases hc : cs[i]? with
      | none => simp [routeAt, hc]
      | some c => simpa [routeAt, hc] using (ih c (List.mem_of_getElem? hc)).map List.cons_injective
    · -- the places below two children begin with different numbers
      rintro i j hij place hi hj
      obtain ⟨_, _, _, _, rfl⟩ := mem_routeAt.mp hi
      obtain ⟨_, _, _, _, h⟩ := mem_routeAt.mp hj
      exact hij (List.cons.inj h).1

/-- At a place stands a call of the named function by its plain name, and the first of its arguments is a
quoted text that is a string. -/
def CallsAt (t : Tree) (function : String) (place : List Nat) (l : Literal) : Prop :=
  ∃ between others, t.at? place = some (node .call (word function :: (between ++ [node .arguments (text l :: others)]))) ∧
    l.value.isSome = true

theorem keyOfCall?_eq_some_iff (function : String) (t : Tree) (l : Literal) :
    keyOfCall? function t = some l ↔
      ∃ between others, t = node .call (word function :: (between ++ [node .arguments (text l :: others)])) ∧
        l.value.isSome = true := by
  constructor
  · intro h
    unfold keyOfCall? at h
    split at h
    · next name parts =>
      split at h
      · next hname =>
        split at h
        · next l' others hlast =>
          split at h
          · next hvalue =>
            obtain rfl := Option.some.inj h
            obtain ⟨between, rfl⟩ := List.getLast?_eq_some_iff.mp hlast
            exact ⟨between, others, by rw [hname], hvalue⟩
          · cases h
        · cases h
      · cases h
    · cases h
  · rintro ⟨between, others, rfl, hvalue⟩
    simp [keyOfCall?, hvalue]

def calls (visitor : Visitor) (function : String) (t : Tree) : List (List Nat × Literal) :=
  (t.route visitor).filterMap fun place => ((t.at? place).bind (keyOfCall? function)).map (place, ·)

theorem mem_calls (visitor : Visitor) (function : String) (t : Tree) (place : List Nat) (l : Literal) :
    (place, l) ∈ t.calls visitor function ↔ t.CallsAt function place l := by
  unfold calls CallsAt
  rw [List.mem_filterMap]
  constructor
  · rintro ⟨other, _, h⟩
    obtain ⟨l', hcall, hpair⟩ := Option.map_eq_some_iff.mp h
    obtain ⟨rfl, rfl⟩ := Prod.mk.inj hpair
    obtain ⟨u, hu, hkey⟩ := Option.bind_eq_some_iff.mp hcall
    obtain ⟨between, others, rfl, hvalue⟩ := (keyOfCall?_eq_some_iff function u l').mp hkey
    exact ⟨between, others, hu, hvalue⟩
  · rintro ⟨between, others, hu, hvalue⟩
    refine ⟨place, (mem_route visitor place t).mpr (by rw [hu]; rfl), ?_⟩
    have hkey := (keyOfCall?_eq_some_iff function _ l).mpr ⟨between, others, rfl, hvalue⟩
    rw [hu, Option.bind_some, hkey, Option.map_some]

theorem places_calls (visitor : Visitor) (function : String) (t : Tree) :
    (t.calls visitor function).map (·.1) =
      (t.route visitor).filter fun place => ((t.at? place).bind (keyOfCall? function)).isSome := by
  rw [calls, List.map_filterMap, ← List.filterMap_eq_filter]
  congr 1
  funext place
  cases h : (t.at? place).bind (keyOfCall? function) <;> simp [Option.guard, h]

theorem nodup_calls (visitor : Visitor) (function : String) (t : Tree) :
    ((t.calls visitor function).map (·.1)).Nodup := by
  rw [places_calls]
  exact (nodup_route visitor t).filter _

theorem keysOfCalls_eq (visitor : Visitor) (function : String) (t : Tree) :
    t.keysOfCalls visitor function = (t.calls visitor function).map (·.2) := by
  rw [keysOfCalls, walk_eq_route, calls, List.map_filterMap, List.filterMap_eq_flatMap_toList]
  apply List.flatMap_congr
  intro place _
  cases t.at? place with
  | none => simp
  | some u => cases hkey : keyOfCall? function u <;> simp [hkey]

end Tree

/-- The call sites of a document with a tree are the calls in it, each at a place of its own, whatever parser
gives the tree and in whatever order a visitor comes to the children of its nodes. -/
theorem scan_calls {parser : Parser} (visitor : Visitor) {document : String} {language : Language} {t : Tree}
    (h : parser language (withoutMark document.toList).1 = some t) (function : String) :
    ∃ calls : List (List Nat × Literal), (calls.map (·.1)).Nodup ∧
      (∀ place l, (place, l) ∈ calls ↔ t.CallsAt function place l) ∧
      CallSite.scanBy parser visitor document function language = calls.map fun call =>
        .ofLiteral (LineIndex.ofText document.toList) (withoutMark document.toList).2 call.2 := by
  refine ⟨t.calls visitor function, t.nodup_calls visitor function, t.mem_calls visitor function, ?_⟩
  unfold CallSite.scanBy
  simp only [h]
  rw [Tree.keysOfCalls_eq, List.map_map]
  rfl

def nestedCalls : String := "t('a', [t('b')]), i.t('c')"

theorem nestedCalls_sites : ∃ t, parse? .typescriptReact (withoutMark nestedCalls.toList).1 = some t ∧
    (∃ calls : List (List Nat × Literal), (calls.map (·.1)).Nodup ∧
      (∀ place l, (place, l) ∈ calls ↔ t.CallsAt "t" place l) ∧
      CallSite.scan nestedCalls "t" .typescriptReact = calls.map fun call =>
        .ofLiteral (LineIndex.ofText nestedCalls.toList) (withoutMark nestedCalls.toList).2 call.2) ∧
    (CallSite.scan nestedCalls "t" .typescriptReact).map (·.key) = ["a", "b"] := by
  have hparse : (parse? .typescriptReact (withoutMark nestedCalls.toList).1).isSome = true := by decide +kernel
  obtain ⟨t, ht⟩ := Option.isSome_iff_exists.mp hparse
  exact ⟨t, ht, scan_calls .byFields ht "t", by decide +kernel⟩

end Gloss.Script
