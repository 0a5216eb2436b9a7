import Gloss.Escape
import Gloss.Json.Fault

namespace Gloss.Json

structure Cursor where
  offset : Nat
  rest : List Char

namespace Text

def named : List (Char × Char) :=
  [('"', '"'), ('\\', '\\'), ('/', '/'), ('b', '\x08'), ('f', '\x0c'), ('n', '\n'), ('r', '\r'), ('t', '\t')]

def encodeChar (c : Char) : List Char :=
  match c with
  | '"' => ['\\', '"']
  | '\\' => ['\\', '\\']
  | '\x08' => ['\\', 'b']
  | '\x0c' => ['\\', 'f']
  | '\n' => ['\\', 'n']
  | '\r' => ['\\', 'r']
  | '\t' => ['\\', 't']
  | c =>
    if c < ' ' then ['\\', 'u', '0', '0', Nat.digitChar (c.toNat / 16), Nat.digitChar (c.toNat % 16)]
    else [c]

def encode (cs : List Char) : List Char := cs.flatMap encodeChar

def render (s : String) : String := "\"" ++ String.ofList (encode s.toList) ++ "\""

def unit (offset : Nat) (cs : List Char) : Except Fault Nat :=
  match Escape.hexValue? (cs.take 4), cs with
  | some u, _ :: _ :: _ :: _ :: _ => .ok u
  | _, _ =>
    let size := byteLength (cs.take 4)
    .error (if size < 4 then ⟨.endInText, offset + size⟩ else ⟨.badEscape, offset + 4⟩)

def lowUnit (offset : Nat) : List Char → Except Fault Nat
  | '\\' :: 'u' :: cs => do
    let u ← unit (offset + 2) cs
    if Utf16.isLow u then .ok u else .error ⟨.loneSurrogate, offset + 6⟩
  | [] => .error ⟨.endInText, offset⟩
  | ['\\'] => .error ⟨.endInText, offset + 1⟩
  | '\\' :: _ => .error ⟨.halfPair, offset + 2⟩
  | _ => .error ⟨.halfPair, offset + 1⟩

def escape (offset : Nat) : List Char → Except Fault (Char × Nat)
  | [] => .error ⟨.endInText, offset⟩
  | 'u' :: cs => do
    let u ← unit (offset + 1) cs
    if Utf16.isLow u then .error ⟨.loneSurrogate, offset + 5⟩
    else if Utf16.isHigh u then
      let low ← lowUnit (offset + 5) (cs.drop 4)
      .ok (Utf16.joined u low, 11)
    else .ok (Char.ofNat u, 5)
  | c :: _ =>
    match named.lookup c with
    | some d => .ok (d, 1)
    | none => .error ⟨.badEscape, offset + 1⟩

def passEscape (offset : Nat) : List Char → Except Fault Nat
  | [] => .error ⟨.endInText, offset⟩
  | 'u' :: cs => do
    let _ ← unit (offset + 1) cs
    .ok 5
  | c :: _ => if (named.lookup c).isSome then .ok 1 else .error ⟨.badEscape, offset + 1⟩

/-- Reads up to and with the closing quote; the first `skip` characters are already accounted
for. -/
def read (skip offset : Nat) : List Char → Except Fault (List Char × Cursor)
  | [] => .error ⟨.endInText, offset⟩
  | c :: cs =>
    match skip with
    | skip + 1 => read skip (offset + c.utf8Size) cs
    | 0 =>
      if c = '"' then .ok ([], ⟨offset + 1, cs⟩)
      else if c = '\\' then do
        let (d, n) ← escape (offset + 1) cs
        let (ds, stop) ← read n (offset + 1) cs
        .ok (d :: ds, stop)
      else if c < ' ' then .error ⟨.controlCharacter, offset + 1⟩
      else do
        let (ds, stop) ← read 0 (offset + c.utf8Size) cs
        .ok (c :: ds, stop)

def pass (skip offset : Nat) : List Char → Except Fault Cursor
  | [] => .error ⟨.endInText, offset⟩
  | c :: cs =>
    match skip with
    | skip + 1 => pass skip (offset + c.utf8Size) cs
    | 0 =>
      if c = '"' then .ok ⟨offset + 1, cs⟩
      else if c = '\\' then do
        let n ← passEscape (offset + 1) cs
        pass n (offset + 1) cs
      else if c < ' ' then .error ⟨.controlCharacter, offset⟩
      else pass 0 (offset + c.utf8Size) cs

end Text

end Gloss.Json
