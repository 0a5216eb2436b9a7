namespace Gloss.Utf16

def isHigh (u : Nat) : Bool := 0xD800 ≤ u && u < 0xDC00

def isLow (u : Nat) : Bool := 0xDC00 ≤ u && u < 0xE000

def isSurrogate (u : Nat) : Bool := isHigh u || isLow u

def units (c : Char) : List Nat :=
  if c.toNat < 0x10000 then [c.toNat]
  else [0xD800 + (c.toNat - 0x10000) / 0x400, 0xDC00 + (c.toNat - 0x10000) % 0x400]

def width (c : Char) : Nat := if c.toNat < 0x10000 then 1 else 2

@[simp] theorem length_units (c : Char) : (units c).length = width c := by
  unfold units width
  split <;> rfl

def joined (high low : Nat) : Char :=
  Char.ofNat (0x10000 + (high - 0xD800) * 0x400 + (low - 0xDC00))

def single (u : Nat) : Char := if isSurrogate u then '\uFFFD' else Char.ofNat u

def decode : List Nat → List Char
  | [] => []
  | [u] => [single u]
  | u :: v :: us =>
    if isHigh u && isLow v then joined u v :: decode us
    else single u :: decode (v :: us)

def single? (u : Nat) : Option Char := if isSurrogate u then none else some (Char.ofNat u)

def decode? : List Nat → Option (List Char)
  | [] => some []
  | [u] => (single? u).map ([·])
  | u :: v :: us =>
    if isHigh u && isLow v then (decode? us).map (joined u v :: ·)
    else (single? u).bind fun c => (decode? (v :: us)).map (c :: ·)

end Gloss.Utf16
