import Std.Data.ExtTreeMap

namespace Gloss

abbrev Dictionary := Std.ExtTreeMap String String

namespace Dictionary

def ofPairs (pairs : List (String × String)) : Dictionary :=
  pairs.foldl (fun d p => d.insert p.1 p.2) ∅

/-- The values of `upper` win. -/
def overlay (lower upper : Dictionary) : Dictionary := lower ∪ upper

theorem getElem?_overlay (lower upper : Dictionary) (key : String) :
    (lower.overlay upper)[key]? = upper[key]?.or lower[key]? := Std.ExtTreeMap.getElem?_union

def overlayAll (under : Dictionary) (layers : List Dictionary) : Dictionary :=
  layers.foldl overlay under

@[simp] theorem overlayAll_nil (under : Dictionary) : under.overlayAll [] = under := rfl

@[simp] theorem overlayAll_cons (under layer : Dictionary) (layers : List Dictionary) :
    under.overlayAll (layer :: layers) = (under.overlay layer).overlayAll layers := rfl

def merge (layers : List Dictionary) : Dictionary := overlayAll ∅ layers

end Dictionary

end Gloss
