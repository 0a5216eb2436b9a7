namespace Gloss

structure Page (α : Type) where
  items : List α
  offset : Nat
  limit : Nat
  total : Nat

namespace Page

variable {α : Type}

def usualLimit : Nat := 50

def greatestLimit : Nat := 200

def limitOf (requested : Option Nat) : Nat := min (requested.getD usualLimit) greatestLimit

def ofList (xs : List α) (offset limit : Nat) : Page α :=
  ⟨(xs.drop offset).take limit, offset, limit, xs.length⟩

def hasMore (page : Page α) : Bool := page.offset + page.items.length < page.total

end Page

end Gloss
