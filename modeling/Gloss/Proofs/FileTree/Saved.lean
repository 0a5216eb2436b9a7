import Gloss.Proofs.Entries
import Gloss.Proofs.FileTree.Change

namespace Gloss

namespace Node

def shell : Node → Node
  | directory _ => emptyDirectory
  | node => node

theorem shell_eq_file (node : Node) (bytes : ByteArray) : node.shell = .file bytes ↔ node = .file bytes := by
  cases node <;> simp [shell, emptyDirectory]

theorem shell_eq_link (node : Node) (target : Path) : node.shell = .link target ↔ node = .link target := by
  cases node <;> simp [shell, emptyDirectory]

theorem map_shell_eq_file (node : Option Node) (bytes : ByteArray) :
    node.map shell = some (.file bytes) ↔ node = some (.file bytes) := by
  simp [Option.map_eq_some_iff, shell_eq_file]

@[simp] theorem isDirectory_shell (node : Node) : node.shell.isDirectory = node.isDirectory := by
  cases node <;> rfl

theorem lookup_setEntry (name : String) (node : Node) (entries : List (String × Node)) (other : String) :
    (setEntry name node entries).lookup other = if other = name then some node else entries.lookup other :=
  Entries.lookup_put (setEntry name node) rfl (fun _ _ => rfl) entries other

theorem find?_put_self (leaf : Node) (names : List String) (node : Node) :
    (put leaf names node).find? names = some leaf := by
  induction names generalizing node with
  | nil => rfl
  | cons name rest ih => simp [put, entry?, lookup_setEntry, ih]

theorem shell_find?_put (bytes : ByteArray) {names : List String} {node : Node}
    (hroom : ∀ there, node.find? names = some there → ∃ old, there = .file old)
    (hparent : names ≠ [] → (node.find? names.dropLast).any isDirectory = true) {others : List String}
    (hne : others ≠ names) :
    ((put (.file bytes) names node).find? others).map shell = (node.find? others).map shell := by
  induction names generalizing node others with
  | nil =>
    obtain ⟨old, rfl⟩ := hroom node rfl
    obtain ⟨o, os, rfl⟩ := List.exists_cons_of_ne_nil hne
    rfl
  | cons name rest ih =>
    obtain ⟨entries, rfl⟩ : ∃ entries, node = .directory entries := by
      have := hparent (by simp)
      cases rest <;> cases node <;> simp_all [isDirectory, entry?]
    cases others with
    | nil => rfl
    | cons o os =>
      simp only [put, find?_cons, entry?, lookup_setEntry]
      by_cases ho : o = name
      · subst ho
        have hos : os ≠ rest := fun h => hne (by rw [h])
        simp only [if_true, Option.bind_some]
        cases hc : entries.lookup o with
        | some child =>
          refine ih ?_ ?_ hos
          · intro there ht
            exact hroom there (by simpa [ entry?, hc] using ht)
          · intro hrest
            simpa [ entry?, hc, List.dropLast_cons_of_ne_nil hrest] using hparent (by simp)
        | none =>
          -- nothing stands there, so the file itself does now, and nothing below it
          obtain rfl : rest = [] := by
            by_contra hrest
            simpa [ entry?, hc, List.dropLast_cons_of_ne_nil hrest] using hparent (by simp)
          obtain ⟨o, os, rfl⟩ := List.exists_cons_of_ne_nil hos
          rfl
      · simp [ho]

end Node

namespace FileTree

theorem Leads.find_start {top node : Node} {follow : Bool} {links : Nat} {start segments found : List String}
    (h : Leads top follow links start segments found node) : ∃ there, top.find? start = some there := by
  cases h with
  | stay hp | skip hp | up hp | keep hp | jump hp | down hp => exact ⟨_, hp⟩

/-- A regular file stands at `place` in the second tree, where nothing or a file stood in the first, and
all else is the same. -/
structure Saves (place : List String) (before after : FileTree) : Prop where
  here : after.here = before.here
  written : ∃ bytes, after.top.find? place = some (.file bytes)
  room : ∀ there, before.top.find? place = some there → ∃ bytes, there = .file bytes
  elsewhere : ∀ other ≠ place, (after.top.find? other).map Node.shell = (before.top.find? other).map Node.shell

theorem saves_put {before : FileTree} {place : List String} (bytes : ByteArray)
    (hroom : ∀ there, before.top.find? place = some there → ∃ old, there = .file old)
    (hparent : place ≠ [] → (before.top.find? place.dropLast).any Node.isDirectory = true) :
    Saves place before (before.put place (.file bytes)) where
  here := rfl
  written := ⟨bytes, Node.find?_put_self _ _ _⟩
  room := hroom
  elsewhere _ hne := Node.shell_find?_put bytes hroom hparent hne

namespace Saves

variable {place : List String} {before after : FileTree} (h : Saves place before after)

include h

theorem find_file_iff {other : List String} (hne : other ≠ place) (bytes : ByteArray) :
    before.top.find? other = some (.file bytes) ↔ after.top.find? other = some (.file bytes) := by
  have := h.elsewhere other hne
  rw [← Node.map_shell_eq_file, ← this, Node.map_shell_eq_file]

theorem directory {other : List String} {node : Node} (hf : after.top.find? other = some node)
    (hd : node.isDirectory = true) : ∃ old, before.top.find? other = some old ∧ old.isDirectory = true := by
  have hne : other ≠ place := by
    rintro rfl
    obtain ⟨bytes, hw⟩ := h.written
    obtain rfl := Option.some.inj (hf.symm.trans hw)
    cases hd
  have hsame := h.elsewhere other hne
  rw [hf, Option.map_some, eq_comm, Option.map_eq_some_iff] at hsame
  obtain ⟨old, hold, hshell⟩ := hsame
  exact ⟨old, hold, by rw [← Node.isDirectory_shell, hshell, Node.isDirectory_shell, hd]⟩

theorem link {other : List String} {target : Path} (hf : after.top.find? other = some (.link target)) :
    before.top.find? other = some (.link target) := by
  have hne : other ≠ place := by
    rintro rfl
    obtain ⟨bytes, hw⟩ := h.written
    cases hf.symm.trans hw
  have hsame := h.elsewhere other hne
  rw [hf, Option.map_some, eq_comm, Option.map_eq_some_iff] at hsame
  obtain ⟨old, hold, hshell⟩ := hsame
  rw [hold, (Node.shell_eq_link old target).mp hshell]

theorem not_link {other : List String} {node child : Node} (hf : after.top.find? other = some node)
    (hl : ∀ target, node ≠ .link target) (hc : before.top.find? other = some child) (target : Path) :
    child ≠ .link target := by
  rintro rfl
  by_cases hne : other = place
  · subst hne
    obtain ⟨bytes, hfile⟩ := h.room _ hc
    cases hfile
  · have hsame := h.elsewhere other hne
    rw [hf, hc, Option.map_some, Option.map_some, Option.some.injEq] at hsame
    exact hl target ((Node.shell_eq_link node target).mp hsame)

theorem retrace {links : Nat} {start segments found : List String} {node : Node}
    (hleads : Leads after.top true links start segments found node) (hd : node.isDirectory = true) :
    ∃ old, Leads before.top true links start segments found old ∧ old.isDirectory = true := by
  induction hleads with
  | stay hp =>
    obtain ⟨old, hold, hdir⟩ := h.directory hp hd
    exact ⟨old, .stay hold, hdir⟩
  | skip hp hpd hv _ ih =>
    obtain ⟨there, hthere, hdir⟩ := h.directory hp hpd
    obtain ⟨old, hold, hd⟩ := ih hd
    exact ⟨old, .skip hthere hdir hv hold, hd⟩
  | up hp hpd _ ih =>
    obtain ⟨there, hthere, hdir⟩ := h.directory hp hpd
    obtain ⟨old, hold, hd⟩ := ih hd
    exact ⟨old, .up hthere hdir hold, hd⟩
  | keep _ hf => cases hf
  | @jump links start s rest directory target found node hp hv hs he hr _ ih =>
    obtain ⟨there, hthere, _⟩ := h.directory hp (Node.isDirectory_of_entry he)
    obtain ⟨old, hold, hd⟩ := ih hd
    have hnext : after.top.find? (start ++ [s]) = some (.link target) := by simp [Node.find?_append, hp, he]
    have hentry : there.entry? s = some (.link target) := by simpa [Node.find?_append, hthere] using h.link hnext
    exact ⟨old, .jump hthere hv hs hentry hr hold, hd⟩
  | @down links start s rest directory child found node hp hv hs he hl _ ih =>
    obtain ⟨there, hthere, _⟩ := h.directory hp (Node.isDirectory_of_entry he)
    obtain ⟨old, hold, hd⟩ := ih hd
    have hnext : after.top.find? (start ++ [s]) = some child := by simp [Node.find?_append, hp, he]
    obtain ⟨next, hfound⟩ := hold.find_start
    have hentry : there.entry? s = some next := by simpa [Node.find?_append, hthere] using hfound
    exact ⟨old, .down hthere hv hs hentry (h.not_link hnext hl hfound) hold, hd⟩

theorem resolve {path : Path} {found : List String} {node : Node}
    (hr : after.resolve true path = .ok (found, node)) (hd : node.isDirectory = true) :
    ∃ old, before.resolve true path = .ok (found, old) ∧ old.isDirectory = true := by
  obtain ⟨hs, hleads⟩ := (resolve_eq_ok_iff after true path found node).mp hr
  obtain ⟨old, hold, hdir⟩ := h.retrace hleads hd
  have hstart : before.start path = after.start path := by rw [start, start, h.here]
  refine ⟨old, (resolve_eq_ok_iff before true path found old).mpr ⟨hs, ?_⟩, hdir⟩
  rw [hstart]
  exact hold

end Saves

end FileTree

end Gloss
