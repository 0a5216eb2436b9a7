import Gloss.Text.Utf16

/-!
Display text of raw dictionary values: `%uXXXX` and `\uXXXX` are UTF-16 units, `%XX` and `\XX`
units below 256, and any other backslash reads as `%`.
-/

namespace Gloss.Escape

def hexDigit? (c : Char) : Option Nat :=
  if '0' ≤ c ∧ c ≤ '9' then some (c.toNat - 48)
  else if 'a' ≤ c ∧ c ≤ 'f' then some (c.toNat - 87)
  else if 'A' ≤ c ∧ c ≤ 'F' then some (c.toNat - 55)
  else none

def hexValue? (digits : List Char) : Option Nat :=
  digits.foldlM (fun n c => (hexDigit? c).map (16 * n + ·)) 0

def unit? : List Char → Option (Nat × Nat)
  | 'u' :: a :: b :: c :: d :: _ => (hexValue? [a, b, c, d]).map (·, 5)
  | a :: b :: _ => (hexValue? [a, b]).map (·, 2)
  | _ => none

def isMark (c : Char) : Bool := c == '%' || c == '\\'

/-- The units of a raw value; the first `skip` characters are already accounted for. -/
def units : (skip : Nat) → List Char → List Nat
  | _, [] => []
  | skip + 1, _ :: cs => units skip cs
  | 0, c :: cs =>
    if isMark c then
      match unit? cs with
      | some (u, n) => u :: units n cs
      | none => '%'.toNat :: units 0 cs
    else Utf16.units c ++ units 0 cs

def decode (raw : String) : String := String.ofList (Utf16.decode (units 0 raw.toList))

end Gloss.Escape
