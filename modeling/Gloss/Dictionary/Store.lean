import Gloss.Dictionary

namespace Gloss

inductive Write
  | load (entries : Dictionary)
  | loadAll (layers : List Dictionary)
  | rebuild (layers : List Dictionary)
  | reset

def Write.apply : Write → Dictionary → Dictionary
  | load entries, d => d.overlay entries
  | loadAll layers, d => d.overlayAll layers
  | rebuild layers, _ => Dictionary.merge layers
  | reset, _ => ∅

structure Store where
  current : Dictionary := ∅
  snapshots : List (String × Dictionary) := []

namespace Store

def write (store : Store) (w : Write) : Store := { store with current := w.apply store.current }

def keep (store : Store) (name : String) : Store :=
  { store with snapshots := (name, store.current) :: store.snapshots }

def snapshot? (store : Store) (name : String) : Option Dictionary := store.snapshots.lookup name

@[simp] theorem snapshot?_write (store : Store) (w : Write) (name : String) :
    (store.write w).snapshot? name = store.snapshot? name := rfl

@[simp] theorem snapshot?_keep (store : Store) (name : String) :
    (store.keep name).snapshot? name = some store.current := by
  simp [keep, snapshot?]

end Store

end Gloss
