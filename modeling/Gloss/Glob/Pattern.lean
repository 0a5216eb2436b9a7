/-!
Path patterns: `?` and `*` inside a segment, `**` as a whole segment for any directories, and
classes of characters in brackets. There is no escape; a bracket stands for itself inside brackets.
-/

namespace Gloss

namespace Glob

inductive Range
  | single (c : Char)
  | span (first last : Char)
  deriving DecidableEq, Repr

def Range.has : Range → Char → Bool
  | single d, c => c == d
  | span first last, c => first ≤ c && c ≤ last

inductive Token
  | char (c : Char)
  | any
  | within (ranges : List Range)
  | except (ranges : List Range)
  | sequence
  | directories
  deriving DecidableEq, Repr

inductive Cause
  | wildcards
  | recursion
  | range
  deriving DecidableEq, Repr

structure Fault where
  cause : Cause
  offset : Nat
  deriving DecidableEq, Repr

def Cause.message : Cause → String
  | wildcards => "wildcards are either regular \x60*\x60 or recursive \x60**\x60"
  | recursion => "recursive wildcards must form a single path component"
  | range => "invalid range pattern"

def Fault.message (fault : Fault) : String :=
  s!"Pattern syntax error near position {fault.offset}: {fault.cause.message}"

def ranges : List Char → List Range
  | a :: '-' :: b :: cs => .span a b :: ranges cs
  | c :: cs => .single c :: ranges cs
  | [] => []

def class? : List Char → Option (List Char × List Char)
  | [] => none
  | c :: cs =>
    match cs.span (· ≠ ']') with
    | (inside, _ :: rest) => some (c :: inside, rest)
    | _ => none

def bracket? : List Char → Option (Token × List Char)
  | '!' :: cs => (class? cs).map fun (inside, rest) => (.except (ranges inside), rest)
  | cs => (class? cs).map fun (inside, rest) => (.within (ranges inside), rest)

def wildcard (offset : Nat) (before : Option Char) (count : Nat) (rest : List Char) :
    Except Fault (Token × List Char) :=
  if 2 < count then .error ⟨.wildcards, offset + 2⟩
  else if count < 2 then .ok (.sequence, rest)
  else if before.all (· == '/') then
    match rest with
    | [] => .ok (.directories, [])
    | c :: cs => if c = '/' then .ok (.directories, cs) else .error ⟨.recursion, offset + 2⟩
  else .error ⟨.recursion, offset - 1⟩

def token (offset : Nat) (before : Option Char) (c : Char) (cs : List Char) :
    Except Fault (Token × List Char) :=
  if c = '?' then .ok (.any, cs)
  else if c = '*' then
    wildcard offset before (1 + (cs.takeWhile (· == '*')).length) (cs.dropWhile (· == '*'))
  else if c = '[' then
    match bracket? cs with
    | some found => .ok found
    | none => .error ⟨.range, offset⟩
  else .ok (.char c, cs)

/-- `**` right after `**` is left out, but not the second token of a pattern. -/
def push (tokens : List Token) (t : Token) : List Token :=
  if t = .directories ∧ 1 < tokens.length ∧ tokens.getLast? = some .directories then tokens
  else tokens ++ [t]

def tokensOf (done : List Token) (offset : Nat) (before : Option Char) :
    (bound : Nat) → List Char → Except Fault (List Token)
  | 0, _ | _, [] => .ok done
  | bound + 1, c :: cs => do
    let (t, rest) ← token offset before c cs
    let read := (c :: cs).take (cs.length + 1 - rest.length)
    tokensOf (push done t) (offset + read.length) read.getLast? bound rest

end Glob

structure Glob where
  tokens : List Glob.Token
  deriving DecidableEq, Repr

def Glob.parse (pattern : String) : Except Glob.Fault Glob :=
  (Glob.tokensOf [] 0 none pattern.toList.length pattern.toList).map Glob.mk

end Gloss
