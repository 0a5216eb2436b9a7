/-!
Nonnegative binary floating-point numbers of 53 bits, in exact arithmetic on natural numbers, and
the shortest decimals that read back as one of them.
-/

namespace Gloss

structure Binary where
  mantissa : Nat
  exponent : Int
  deriving DecidableEq, Repr

namespace Binary

def zero : Binary := ⟨0, 0⟩

def leastExponent : Int := -1074

def greatestExponent : Int := 971

def fraction (x : Binary) : Nat × Nat :=
  (x.mantissa * Nat.pow 2 x.exponent.toNat, Nat.pow 2 (-x.exponent).toNat)

/-- The quotient rounded to a whole number, a half to the even neighbour. -/
def roundQuotient (num den : Nat) : Nat :=
  let low := num / den
  let double := 2 * (num % den)
  if double < den then low
  else if den < double then low + 1
  else low + low % 2

def scale (num den : Nat) (exponent : Int) : Nat × Nat :=
  (num * Nat.pow 2 (-exponent).toNat, den * Nat.pow 2 exponent.toNat)

def exponentOf (num den : Nat) : Int :=
  let guess := (num.log2 : Int) - den.log2 - 52
  let (n, d) := scale num den guess
  max leastExponent (if n < d * Nat.pow 2 52 then guess - 1 else guess)

def round? (num den : Nat) : Option Binary :=
  if num = 0 then some zero
  else
    let e := exponentOf num den
    let (n, d) := scale num den e
    let m := roundQuotient n d
    let rounded : Binary := if m < Nat.pow 2 53 then ⟨m, e⟩ else ⟨Nat.pow 2 52, e + 1⟩
    if rounded.exponent ≤ greatestExponent then some rounded else none

def times? (x y : Binary) : Option Binary :=
  round? (x.fraction.1 * y.fraction.1) (x.fraction.2 * y.fraction.2)

def over? (x y : Binary) : Option Binary :=
  round? (x.fraction.1 * y.fraction.2) (x.fraction.2 * y.fraction.1)

def ten (power : Nat) : Binary := (round? (Nat.pow 10 power) 1).getD zero

def overTen (x : Binary) (power : Nat) : Binary :=
  if x.mantissa = 0 then zero
  else if 308 < power then overTen ((x.over? (ten 308)).getD zero) (power - 308)
  else (x.over? (ten power)).getD zero
termination_by power
decreasing_by omega

def ofDecimal? (digits : Nat) (power : Int) : Option Binary := do
  let x ← round? digits 1
  if x.mantissa = 0 then some zero
  else if power < 0 then some (x.overTen power.natAbs)
  else if power ≤ 308 then x.times? (ten power.natAbs)
  else none

def interval (x : Binary) : (Nat × Nat × Nat) × Nat :=
  let (n, d) := x.fraction
  let (unit, _) : Nat × Nat := (Binary.mk 1 x.exponent).fraction
  let below := if x.mantissa = Nat.pow 2 52 ∧ leastExponent < x.exponent then unit else 2 * unit
  ((4 * n - below, 4 * n, 4 * n + 2 * unit), 4 * d)

structure Decimal where
  digits : Nat
  power : Int
  deriving DecidableEq, Repr

def candidates (x : Binary) (power : Int) : List Nat :=
  let ((low, mid, high), den) := x.interval
  let den' := den * Nat.pow 10 power.toNat
  let by10 := Nat.pow 10 (-power).toNat
  let floor := mid * by10 / den'
  let inside (k : Nat) : Bool :=
    let v := k * den'
    if x.mantissa % 2 = 0 then low * by10 ≤ v && v ≤ high * by10
    else low * by10 < v && v < high * by10
  let nearest := if 2 * (mid * by10 - floor * den') ≤ den' then [floor, floor + 1] else [floor + 1, floor]
  nearest.filter inside

def shortest (x : Binary) : Decimal :=
  let ((_, mid, _), den) := x.interval
  let whole := (Nat.toDigits 10 (mid / den)).length
  let size : Int := if mid / den = 0 then
      1 - ((Nat.toDigits 10 ((den - 1) / max mid 1)).length : Int)
    else whole
  let found := (List.range 18).findSome? fun (n : Nat) =>
    let power := size - (n : Int)
    (x.candidates power).head?.bind fun k => if k = 0 then none else some (Decimal.mk k power)
  found.getD ⟨0, 0⟩

def zeros (n : Nat) : String := String.ofList (List.replicate n '0')

/-- Positional from `0.00001` up to 16 digits before the point, with a mantissa and an exponent
elsewhere; there is always a point or an exponent. -/
def render (x : Binary) : String :=
  if x.mantissa = 0 then "0.0"
  else
    let ⟨d, p⟩ := x.shortest
    let digits := Nat.toDigits 10 d
    let point : Int := digits.length + p
    if 0 ≤ p ∧ point ≤ 16 then String.ofList digits ++ zeros p.toNat ++ ".0"
    else if 0 < point ∧ point ≤ 16 then
      String.ofList (digits.take point.toNat) ++ "." ++ String.ofList (digits.drop point.toNat)
    else if -5 < point ∧ point ≤ 0 then "0." ++ zeros (-point).toNat ++ String.ofList digits
    else
      let exponent := point - 1
      let mark := if exponent < 0 then "e-" else "e+"
      let tail := digits.drop 1
      String.ofList (digits.take 1) ++ (if tail.isEmpty then "" else "." ++ String.ofList tail) ++ mark
        ++ toString exponent.natAbs

end Binary

end Gloss
