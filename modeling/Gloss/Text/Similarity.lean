/-!
How alike two short texts are: the mean of the part of either that has a partner in the other, and
the part of these partners that stand in the same order. Partners are equal characters at nearly
the same place.
-/

namespace Gloss.Similarity

def take? (c : Char) (low high : Nat) (i : Nat) : List (Char × Bool) → Option (List (Char × Bool))
  | [] => none
  | (d, isTaken) :: ds =>
    if low ≤ i && i < high && d == c && !isTaken then some ((d, true) :: ds)
    else (take? c low high (i + 1) ds).map ((d, isTaken) :: ·)

def pair (range : Nat) (i : Nat) (marked : List (Char × Bool)) : List Char → List Char × List (Char × Bool)
  | [] => ([], marked)
  | c :: cs =>
    match take? c (i - range) (i + range + 1) 0 marked with
    | some marked =>
      let (found, marked) := pair range (i + 1) marked cs
      (c :: found, marked)
    | none => pair range (i + 1) marked cs

structure Score where
  numerator : Nat
  denominator : Nat

def Score.lt (x y : Score) : Bool := x.numerator * y.denominator < y.numerator * x.denominator

def score (a b : List Char) : Score :=
  let range := max a.length b.length / 2 - 1
  let (found, marked) := pair range 0 (b.map (·, false)) a
  let partners := (marked.filter (·.2)).map (·.1)
  let m := found.length
  let moved := (found.zip partners).countP (fun (c, d) => c != d) / 2
  if a.isEmpty && b.isEmpty then ⟨1, 1⟩
  else if m = 0 then ⟨0, 1⟩
  else
    ⟨m * m * b.length + m * m * a.length + (m - moved) * a.length * b.length, 3 * m * a.length * b.length⟩

def threshold : Score := ⟨7, 10⟩

def insertScored (s : Score) (text : String) : List (Score × String) → List (Score × String)
  | [] => [(s, text)]
  | (t, other) :: rest =>
    if s.lt t then (s, text) :: (t, other) :: rest else (t, other) :: insertScored s text rest

def similar (word : String) (candidates : List String) : List String :=
  let scored := (candidates.map fun c => (score word.toList c.toList, c)).filter fun (s, _) => threshold.lt s
  (scored.foldl (fun ranked (s, c) => insertScored s c ranked) []).map (·.2)

end Gloss.Similarity
