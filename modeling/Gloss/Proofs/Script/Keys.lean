import Gloss.Proofs.Script.Places
import Mathlib.Data.List.Perm.Subperm

namespace Gloss.Script

theorem literals_sound {language : Language} {source : List Char} {t : Tree} (h : parse? language source = some t) :
    ∃ limit, Sound source t.literals limit := by
  obtain ⟨s, _, h⟩ := Option.bind_eq_some_iff.mp h
  split at h
  · next forest hforest =>
    split at h
    · cases h
    · obtain rfl := Option.some.inj h
      have hsound := s.sound
      rw [hforest] at hsound
      exact ⟨_, by simpa using hsound⟩
  · cases h

namespace Tree

theorem literalsAll_eq_flatMap (ts : List Tree) : literalsAll ts = ts.flatMap literals := by
  induction ts with
  | nil => simp
  | cons t ts ih => simp [ih]

section

variable (visitor : Visitor) (function : String)

@[simp] theorem keysOfCalls_word (name : String) : (word name).keysOfCalls visitor function = [] := by
  simp [keysOfCalls, walk, keyOfCall?]

@[simp] theorem keysOfCalls_text (l : Literal) : (text l).keysOfCalls visitor function = [] := by
  simp [keysOfCalls, walk, keyOfCall?]

def keysAt (cs : List Tree) (i : Nat) : List Literal := cs[i]?.elim [] (keysOfCalls visitor function)

theorem keysOfCalls_node (k : Kind) (cs : List Tree) :
    (node k cs).keysOfCalls visitor function = (keyOfCall? function (node k cs)).toList ++
      (visitor.order k cs).flatMap (keysAt visitor function cs) := by
  rw [keysOfCalls, walk_node]
  rfl

theorem flatMap_keysAt (cs : List Tree) :
    (List.range cs.length).flatMap (keysAt visitor function cs) = cs.flatMap (keysOfCalls visitor function) := by
  unfold keysAt
  induction cs with
  | nil => simp
  | cons c cs ih => simp [List.range_succ_eq_map, List.flatMap_map, ih]

theorem keysOfCalls_node_perm (k : Kind) (cs : List Tree) :
    ((node k cs).keysOfCalls visitor function).Perm
      ((keyOfCall? function (node k cs)).toList ++ cs.flatMap (keysOfCalls visitor function)) := by
  rw [keysOfCalls_node, ← flatMap_keysAt]
  exact ((visitor.once k cs).flatMap_right _).append_left _

theorem flatMap_subperm_literalsAll {cs : List Tree} (h : ∀ c ∈ cs, (c.keysOfCalls visitor function).Subperm c.literals) :
    (cs.flatMap (keysOfCalls visitor function)).Subperm (literalsAll cs) := by
  induction cs with
  | nil => simp
  | cons c cs ih =>
    obtain ⟨hc, hcs⟩ := List.forall_mem_cons.mp h
    rw [List.flatMap_cons, literalsAll_cons]
    exact hc.append (ih hcs)

theorem keyOfCall?_arguments (cs : List Tree) : keyOfCall? function (node .arguments cs) = none := by
  simp [keyOfCall?]

theorem keysOfCalls_arguments (l : Literal) (others : List Tree) :
    ((node .arguments (text l :: others)).keysOfCalls visitor function).Perm
      (others.flatMap (keysOfCalls visitor function)) := by
  have hperm := keysOfCalls_node_perm visitor function .arguments (text l :: others)
  rw [keyOfCall?_arguments] at hperm
  simpa using hperm

/-- The keys are among the quoted texts, and so are those below the children. -/
theorem keysOfCalls_subperm_children (t : Tree) :
    (t.keysOfCalls visitor function).Subperm t.literals ∧
      ∀ c ∈ t.children, (c.keysOfCalls visitor function).Subperm c.literals := by
  induction t using nodeInduction with
  | word name => simp [children]
  | text l => simp [children]
  | node k cs ih =>
    have hcs : ∀ c ∈ cs, (c.keysOfCalls visitor function).Subperm c.literals := fun c hc => (ih c hc).1
    refine ⟨?_, hcs⟩
    rw [(keysOfCalls_node_perm visitor function k cs).subperm_right, literals_node]
    cases hkey : keyOfCall? function (node k cs) with
    | none => exact flatMap_subperm_literalsAll visitor function hcs
    | some l =>
      obtain ⟨between, others, hnode, _⟩ := (keyOfCall?_eq_some_iff function _ l).mp hkey
      obtain ⟨rfl, rfl⟩ := Tree.node.inj hnode
      have hbetween : (between.flatMap (keysOfCalls visitor function)).Subperm (literalsAll between) :=
        flatMap_subperm_literalsAll visitor function fun c hc => hcs c (by simp [hc])
      have hothers : (others.flatMap (keysOfCalls visitor function)).Subperm (literalsAll others) :=
        flatMap_subperm_literalsAll visitor function fun c hc =>
          (ih (node .arguments (text l :: others)) (by simp)).2 c (by simp [children, hc])
      -- the keys below the arguments leave out the quoted text that is the call's own key
      have hperm : (l :: (word function :: (between ++ [node .arguments (text l :: others)])).flatMap
            (keysOfCalls visitor function)).Perm
          (between.flatMap (keysOfCalls visitor function) ++ l :: others.flatMap (keysOfCalls visitor function)) := by
        rw [List.flatMap_cons, keysOfCalls_word, List.nil_append, List.flatMap_append, List.flatMap_singleton]
        exact List.perm_middle.symm.trans (((keysOfCalls_arguments visitor function l others).cons l).append_left _)
      rw [Option.toList_some, List.singleton_append, hperm.subperm_right]
      simpa using hbetween.append (List.subperm_cons l |>.mpr hothers)

theorem keysOfCalls_subperm (t : Tree) : (t.keysOfCalls visitor function).Subperm t.literals :=
  (keysOfCalls_subperm_children visitor function t).1

end

end Tree

end Gloss.Script
