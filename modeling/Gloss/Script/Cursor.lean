import Gloss.Script.Token
import Gloss.Script.Tree
import Gloss.Text.LineIndex

/-!
Places in a text, and the tokens found there. A cursor carries the proof that what lies ahead of it
is the text from its offset on; a lexeme that is a quoted text carries the proof that reading the
text at its start gives exactly that token.
-/

namespace Gloss.Script

structure Cursor (source : List Char) where
  offset : Nat
  rest : List Char
  aligned : ∃ before, source = before ++ rest ∧ offset = byteLength before

namespace Cursor

variable {source : List Char}

def start (source : List Char) : Cursor source := ⟨0, source, [], rfl, rfl⟩

def advance (c : Cursor source) (n : Nat) : Cursor source where
  offset := c.offset + byteLength (c.rest.take n)
  rest := c.rest.drop n
  aligned := by
    obtain ⟨before, h, hb⟩ := c.aligned
    exact ⟨before ++ c.rest.take n, by simp [h, List.take_append_drop], by simp [hb]⟩

theorem offset_le_advance (c : Cursor source) (n : Nat) : c.offset ≤ (c.advance n).offset := by
  simp [advance]

end Cursor

def Literal.IsIn (source : List Char) (l : Literal) : Prop :=
  ∃ (c : Cursor source) (n : Nat), Token.read? c.rest = some (.text l.value, n) ∧
    l.start = c.offset ∧ l.stop = (c.advance n).offset

structure Lexeme (source : List Char) where
  token : Token
  start : Cursor source
  stop : Cursor source
  newline : Bool
  start_le_stop : start.offset ≤ stop.offset
  found : ∀ value, token = .text value →
    ∃ n, Token.read? start.rest = some (.text value, n) ∧ stop = start.advance n

namespace Lexeme

variable {source : List Char}

def invalid (c : Cursor source) (newline : Bool) : Lexeme source :=
  ⟨.invalid, c, c, newline, Nat.le_refl _, fun _ h => Token.noConfusion h⟩

/-- The token that begins at a cursor. An arrow comment after a line break is no token. -/
def ofCursor (c : Cursor source) (newline : Bool) : Lexeme source :=
  if newline ∧ "-->".toList.isPrefixOf c.rest then invalid c newline
  else match h : Token.read? c.rest with
    | none => invalid c newline
    | some (token, n) =>
      ⟨token, c, c.advance n, newline, c.offset_le_advance n, fun _ e => ⟨n, e ▸ h, rfl⟩⟩

def next (c : Cursor source) (newline : Bool) : Lexeme source :=
  match Token.gap .blank c.rest 0 newline with
  | none => invalid c newline
  | some (n, newline) => Lexeme.ofCursor (c.advance n) newline

theorem start_ofCursor (c : Cursor source) (newline : Bool) : (Lexeme.ofCursor c newline).start = c := by
  unfold Lexeme.ofCursor
  split
  · rfl
  · split <;> rfl

theorem offset_le_next (c : Cursor source) (newline : Bool) :
    c.offset ≤ (next c newline).start.offset := by
  unfold next
  split
  · exact Nat.le_refl _
  · rw [start_ofCursor]
    exact c.offset_le_advance _

end Lexeme

end Gloss.Script
