import Gloss.Escape
import Gloss.Script.Alphabet

namespace Gloss.Script

open Gloss.Escape (hexValue? hexDigit?)

inductive Token
  | word (name : String) (escaped : Bool)
  | privateName (name : String)
  | number
  | bigNumber
  /-- A quoted text; `none` stands for a value with a lone surrogate. -/
  | text (value : Option String)
  | sign (spelling : String)
  | finish
  | invalid
  deriving DecidableEq, Repr, Inhabited

namespace Token

/-! ### Gaps between tokens -/

inductive Gap
  | blank
  | line
  | block

/-- The characters of the gap before the next token and whether a line ends in it; `none` when a
block comment stays open. -/
def gap : Gap → List Char → (taken : Nat) → (newline : Bool) → Option (Nat × Bool)
  | .blank, '/' :: '/' :: cs, n, nl => gap .line cs (n + 2) nl
  | .blank, '/' :: '*' :: cs, n, nl => gap .block cs (n + 2) nl
  | .blank, c :: cs, n, nl =>
    if isLineBreak c then gap .blank cs (n + 1) true
    else if isBlank c then gap .blank cs (n + 1) nl
    else some (n, nl)
  | .blank, [], n, nl => some (n, nl)
  | .line, c :: cs, n, nl =>
    if isLineBreak c then gap .blank cs (n + 1) true else gap .line cs (n + 1) nl
  | .line, [], n, nl => some (n, nl)
  | .block, '*' :: '/' :: cs, n, nl => gap .blank cs (n + 2) nl
  | .block, c :: cs, n, nl => gap .block cs (n + 1) (nl || isLineBreak c)
  | .block, [], _, _ => none

/-! ### Escapes -/

def braced : List Char → (value digits : Nat) → Option (Nat × Nat)
  | [], _, _ => none
  | c :: cs, v, n =>
    if c = '\x7d' then if n = 0 then none else some (v, n + 1)
    else (hexDigit? c).bind fun d =>
      if 16 * v + d ≤ 0x10FFFF then braced cs (16 * v + d) (n + 1) else none

def codePoint? : List Char → Option (Nat × Nat)
  | 'u' :: '\x7b' :: cs => (braced cs 0 0).map fun (v, n) => (v, n + 2)
  | 'u' :: a :: b :: c :: d :: _ => (hexValue? [a, b, c, d]).map (·, 5)
  | _ => none

def codeUnits (v : Nat) : List Nat := if v < 0x10000 then [v] else Utf16.units (Char.ofNat v)

def escape? : List Char → Option (List Nat × Nat)
  | [] => none
  | '\r' :: '\n' :: _ => some ([], 2)
  | 'x' :: a :: b :: _ => (hexValue? [a, b]).map fun v => ([v], 3)
  | '0' :: d :: _ => if isOctalDigit d then none else some ([0], 1)
  | 'u' :: cs => (codePoint? ('u' :: cs)).map fun (v, n) => (codeUnits v, n)
  | c :: _ =>
    if isLineBreak c then some ([], 1)
    else match c with
      | 'x' => none
      | '0' => some ([0], 1)
      | 'n' => some ([10], 1)
      | 't' => some ([9], 1)
      | 'r' => some ([13], 1)
      | 'b' => some ([8], 1)
      | 'v' => some ([11], 1)
      | 'f' => some ([12], 1)
      | c => if isOctalDigit c then none else some (Utf16.units c, 1)

/-! ### Quoted texts -/

/-- The units up to the closing quote, which is counted; the first `skip` characters are already
accounted for. -/
def quoted (quote : Char) : (skip : Nat) → List Char → Option (List Nat × Nat)
  | _, [] => none
  | skip + 1, _ :: cs => (quoted quote skip cs).map fun (us, n) => (us, n + 1)
  | 0, c :: cs =>
    if c = quote then some ([], 1)
    else if c = '\\' then
      (escape? cs).bind fun (us, k) =>
        (quoted quote k cs).map fun (vs, n) => (us ++ vs, n + 1)
    else if c = '\n' ∨ c = '\r' then none
    else (quoted quote 0 cs).map fun (us, n) => (Utf16.units c ++ us, n + 1)

def text? (quote : Char) (cs : List Char) : Option (Token × Nat) :=
  (quoted quote 0 cs).map fun (us, n) => (.text ((Utf16.decode? us).map String.ofList), n + 1)

/-! ### Names -/

def letters : (skip : Nat) → List Char → Option (List Char × Nat × Bool)
  | _, [] => some ([], 0, false)
  | skip + 1, _ :: cs => (letters skip cs).map fun (w, n, e) => (w, n + 1, e)
  | 0, c :: cs =>
    if isWordPart c then (letters 0 cs).map fun (w, n, e) => (c :: w, n + 1, e)
    else if c = '\\' then
      (codePoint? cs).bind fun (v, k) =>
        if isWordPart (Char.ofNat v) then
          (letters k cs).map fun (w, n, _) => (Char.ofNat v :: w, n + 1, true)
        else none
    else some ([], 0, false)

def beginsWord (c : Char) : Bool := isWordStart c || c == '\\'

def word? (cs : List Char) : Option (String × Nat × Bool) :=
  (letters 0 cs).bind fun (w, n, e) =>
    if w.head?.any isWordStart then some (String.ofList w, n, e) else none

/-! ### Numbers -/

def digits (isDigit : Char → Bool) : (after : Bool) → List Char → Option Nat
  | after, [] => if after then some 0 else none
  | after, c :: cs =>
    if isDigit c then (digits isDigit true cs).map (· + 1)
    else if c = '_' then if after then (digits isDigit false cs).map (· + 1) else none
    else if after then some 0 else none

def startsRun (cs : List Char) : Bool := cs.head?.any fun c => isDigit c || c == '_'

def exponent : List Char → Option Nat
  | e :: cs =>
    if e = 'e' ∨ e = 'E' then
      match cs with
      | s :: ds => if s = '+' ∨ s = '-' then (digits isDigit false ds).map (· + 2)
        else (digits isDigit false cs).map (· + 1)
      | [] => none
    else some 0
  | [] => some 0

def radix? : Char → Option (Char → Bool)
  | 'x' | 'X' => some fun c => (hexDigit? c).isSome
  | 'o' | 'O' => some isOctalDigit
  | 'b' | 'B' => some fun c => c == '0' || c == '1'
  | _ => none

def withSuffix (n : Nat) (rest : List Char) : Token × Nat :=
  if rest.head? = some 'n' then (.bigNumber, n + 1) else (.number, n)

def fraction (n : Nat) (rest : List Char) : Option (Token × Nat) :=
  (if startsRun rest then digits isDigit false rest else some 0).bind fun k =>
    (exponent (rest.drop k)).map fun e => (.number, n + k + e)

/-- A number is neither an old octal nor written with leading zeros. -/
def bareNumber? (cs : List Char) : Option (Token × Nat) :=
  match cs with
  | '.' :: rest => fraction 1 rest
  | '0' :: c :: rest =>
    match radix? c with
    | some p => (digits p false rest).map fun n => withSuffix (n + 2) (rest.drop n)
    | none =>
      if isDigit c || c == '_' then none
      else if c = '.' then fraction 2 rest
      else if c = 'n' then some (.bigNumber, 2)
      else (exponent (c :: rest)).map fun e => (.number, 1 + e)
  | _ =>
    (digits isDigit false cs).bind fun n =>
      match cs.drop n with
      | '.' :: rest => fraction (n + 1) rest
      | rest =>
        if rest.head? = some 'n' then some (.bigNumber, n + 1)
        else (exponent rest).map fun e => (.number, n + e)

def number? (cs : List Char) : Option (Token × Nat) :=
  (bareNumber? cs).bind fun (t, n) =>
    if t = .number ∧ (cs.drop n).head?.any fun c => beginsWord c || isDigit c then none else some (t, n)

/-! ### Signs -/

def signs : List String :=
  [">>>=", "...", "===", "!==", "**=", "<<=", ">>=", ">>>", "&&=", "||=", "??=", "=>", "==", "!=",
    "<=", ">=", "&&", "||", "??", "++", "--", "+=", "-=", "*=", "/=", "%=", "&=", "|=", "^=", "<<",
    ">>", "**"]

def isSignLetter (c : Char) : Bool :=
  "\x7b\x7d()[];,<>+-*/%&|^!~?:=@#.\x60".toList.contains c

def sign? (cs : List Char) : Option (Token × Nat) :=
  match cs with
  | '<' :: '!' :: '-' :: '-' :: _ => none
  | '?' :: '.' :: c :: _ => some (if isDigit c then (.sign "?", 1) else (.sign "?.", 2))
  | '?' :: ['.'] => some (.sign "?.", 2)
  | _ =>
    match signs.find? (fun s => s.toList.isPrefixOf cs) with
    | some s => some (.sign s, s.length)
    | none => cs.head?.bind fun c => if isSignLetter c then some (.sign c.toString, 1) else none

def read? (cs : List Char) : Option (Token × Nat) :=
  match cs with
  | [] => some (.finish, 0)
  | c :: rest =>
    if c = '"' ∨ c = '\'' then text? c rest
    else if beginsWord c then (word? cs).map fun (w, n, e) => (.word w e, n)
    else if c = '#' ∧ rest.head?.any beginsWord then (word? rest).map fun (w, n, _) => (.privateName w, n + 1)
    else if isDigit c || (c == '.' && rest.head?.any isDigit) then number? cs
    else sign? cs

/-! ### Stretches that only the surrounding syntax tells from tokens -/

def pattern : (inClass : Bool) → List Char → Option Nat
  | _, [] => none
  | inClass, '\\' :: c :: cs => if isLineBreak c then none else (pattern inClass cs).map (· + 2)
  | inClass, c :: cs =>
    if isLineBreak c then none
    else if c = '/' ∧ !inClass then some 1
    else (pattern (if c = '[' then true else if c = ']' then false else inClass) cs).map (· + 1)

def areFlags (cs : List Char) : Bool := cs.all "dgimsuvy".toList.contains && decide cs.Nodup

structure Chunk where
  length : Nat
  opens : Bool
  cooked : Bool

def chunk : (skip : Nat) → (taken : Nat) → (cooked : Bool) → List Char → Option Chunk
  | _, _, _, [] => none
  | skip + 1, n, cooked, _ :: cs => chunk skip (n + 1) cooked cs
  | 0, n, cooked, c :: cs =>
    if c = '\x60' then some ⟨n + 1, false, cooked⟩
    else if c = '$' ∧ cs.head? = some '\x7b' then some ⟨n + 2, true, cooked⟩
    else if c = '\\' then
      match cs with
      | [] => none
      | d :: _ =>
        match escape? cs with
        | some (_, k) => chunk k (n + 1) (cooked && !('1' ≤ d && d ≤ '9')) cs
        | none => chunk 1 (n + 1) false cs
    else chunk 0 (n + 1) cooked cs

def elementText : List Char → (taken : Nat) → Option Nat
  | [], _ => none
  | c :: cs, n =>
    if c = '<' ∨ c = '\x7b' then some n
    else if c = '>' ∨ c = '\x7d' then none
    else elementText cs (n + 1)

def attributeText (quote : Char) : List Char → (taken : Nat) → Option Nat
  | [], _ => none
  | c :: cs, n => if c = quote then some (n + 1) else attributeText quote cs (n + 1)

def hyphenated : List Char → Nat
  | [] => 0
  | c :: cs => if isWordPart c || c == '-' then hyphenated cs + 1 else 0

end Token

end Gloss.Script
