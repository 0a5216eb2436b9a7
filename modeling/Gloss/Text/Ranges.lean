namespace Gloss.Ranges

def search (ranges : Array (Nat × Nat)) (n low high : Nat) : Bool :=
  if low < high then
    let mid := (low + high) / 2
    match ranges[mid]? with
    | none => false
    | some (first, last) =>
      if n < first then search ranges n low mid
      else if last < n then search ranges n (mid + 1) high
      else true
  else false
termination_by high - low

def has (ranges : Array (Nat × Nat)) (c : Char) : Bool := search ranges c.toNat 0 ranges.size

end Gloss.Ranges
