import Gloss.Text.Utf16

/-!
Editor positions in a text: a line number and a column in UTF-16 units, both from zero.
Only `\n` ends a line, and offsets count UTF-8 bytes.
-/

namespace Gloss

structure Position where
  line : Nat
  character : Nat
  deriving DecidableEq, Repr

def byteLength : List Char → Nat
  | [] => 0
  | c :: cs => c.utf8Size + byteLength cs

@[simp] theorem byteLength_nil : byteLength [] = 0 := rfl

@[simp] theorem byteLength_cons (c : Char) (cs : List Char) :
    byteLength (c :: cs) = c.utf8Size + byteLength cs := rfl

@[simp] theorem byteLength_append (as bs : List Char) :
    byteLength (as ++ bs) = byteLength as + byteLength bs := by
  induction as with
  | nil => simp
  | cons a as ih => simp [ih, Nat.add_assoc]

/-- The UTF-16 units of the characters that begin before `offset`; the text begins at `start`. -/
def column (start offset : Nat) : List Char → Nat
  | [] => 0
  | c :: cs => if start < offset then Utf16.width c + column (start + c.utf8Size) offset cs else 0

structure Line where
  start : Nat
  text : List Char

structure LineIndex where
  size : Nat
  lines : Array Line

namespace LineIndex

def split (start : Nat) : List Char → List Char × List Line
  | [] => ([], [])
  | c :: cs =>
    let (first, later) := split (start + c.utf8Size) cs
    if c = '\n' then ([], ⟨start + c.utf8Size, first⟩ :: later) else (c :: first, later)

def ofText (text : List Char) : LineIndex :=
  let (first, later) := split 0 text
  ⟨byteLength text, (⟨0, first⟩ :: later).toArray⟩

def search (lines : Array Line) (offset low high : Nat) : Nat :=
  if low + 1 < high then
    let mid := (low + high) / 2
    if (lines[mid]?.map (·.start)).any (· ≤ offset) then search lines offset mid high
    else search lines offset low mid
  else low
termination_by high - low

def lineAt (index : LineIndex) (offset : Nat) : Nat :=
  search index.lines offset 0 index.lines.size

def position (index : LineIndex) (offset : Nat) : Position :=
  let offset := min offset index.size
  let line := index.lineAt offset
  ⟨line, match index.lines[line]? with
    | some l => column l.start offset l.text
    | none => 0⟩

end LineIndex

end Gloss
