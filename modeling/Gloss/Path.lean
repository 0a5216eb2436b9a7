/-!
Paths as they are spelled: `text` gives back what `ofText` was given. Empty segments and `.` mean
nothing, but for a `.` that begins a path from the working directory.
-/

namespace Gloss

structure Path where
  rooted : Bool
  segments : List String
  deriving DecidableEq, Repr, Inhabited

namespace Path

def split : List Char → List (List Char)
  | [] => [[]]
  | c :: cs =>
    if c = '/' then [] :: split cs
    else
      match split cs with
      | [] => [[c]]
      | s :: ss => (c :: s) :: ss

def segmentsOf (cs : List Char) : List String := if cs.isEmpty then [] else (split cs).map String.ofList

def ofChars : List Char → Path
  | [] => ⟨false, []⟩
  | c :: cs => if c = '/' then ⟨true, segmentsOf cs⟩ else ⟨false, segmentsOf (c :: cs)⟩

def ofText (text : String) : Path := ofChars text.toList

def text (p : Path) : String := (if p.rooted then "/" else "") ++ "/".intercalate p.segments

def empty : Path := ⟨false, []⟩

def ofNames (names : List String) : Path := ⟨false, names⟩

/-- Goes on from `p` by `q`; a rooted `q` stands for itself, and an empty one ends `p` with a
separator. -/
def join (p q : Path) : Path :=
  if q.rooted then q
  else if p.segments.isEmpty && (q.segments.isEmpty || !p.rooted) then ⟨p.rooted, q.segments⟩
  else
    let stem := if p.segments.getLast? = some "" then p.segments.dropLast else p.segments
    ⟨p.rooted, stem ++ if q.segments.isEmpty then [""] else q.segments⟩

instance : Div Path := ⟨join⟩

def isVoid (segment : String) : Bool := segment == "" || segment == "."

inductive Component
  | root
  | current
  | parent
  | name (s : String)
  deriving DecidableEq, Repr

def parts (p : Path) : List String × List String :=
  match p.rooted, p.segments with
  | false, "." :: rest => (["."], rest)
  | _, segments => ([], segments)

def Component.ofSegment? (s : String) : Option Component :=
  if isVoid s then none else some (if s = ".." then .parent else .name s)

def components (p : Path) : List Component :=
  let (front, body) := p.parts
  (if p.rooted then [.root] else []) ++ (front.map fun _ => .current) ++ body.filterMap Component.ofSegment?

def trimStart (segments : List String) : List String := segments.dropWhile isVoid

def trimEnd (segments : List String) : List String := (segments.reverse.dropWhile isVoid).reverse

theorem length_trimEnd_le (segments : List String) : (trimEnd segments).length ≤ segments.length := by
  unfold trimEnd
  have := (List.dropWhile_suffix isVoid (l := segments.reverse)).length_le
  simpa using this

def parent? (p : Path) : Option Path :=
  let (front, body) := p.parts
  let body := trimEnd body
  if body.isEmpty then if front.isEmpty then none else some empty
  else some ⟨p.rooted, front ++ trimEnd body.dropLast⟩

theorem length_parts (p : Path) : p.parts.1.length + p.parts.2.length = p.segments.length := by
  unfold parts
  split <;> simp_all [Nat.add_comm]

theorem length_parent {p q : Path} (h : p.parent? = some q) : q.segments.length < p.segments.length := by
  have hp := length_parts p
  unfold parent? at h
  generalize p.parts = fb at h hp
  obtain ⟨front, body⟩ := fb
  dsimp only at h hp
  have hb := length_trimEnd_le body
  split at h
  · cases front with
    | nil => simp at h
    | cons f fs =>
      simp only [List.isEmpty_cons, Bool.false_eq_true, if_false, Option.some.injEq] at h
      subst h
      simp only [empty, List.length_nil, List.length_cons] at hp ⊢
      omega
  · next hne =>
    simp only [Option.some.injEq] at h
    subst h
    have hd := length_trimEnd_le (trimEnd body).dropLast
    have hpos : 0 < (trimEnd body).length := by
      cases hb : trimEnd body with
      | nil => simp [hb] at hne
      | cons => simp
    simp only [List.length_append, List.length_dropLast] at hd ⊢
    omega

def ancestors (p : Path) : List Path :=
  match _h : p.parent? with
  | none => [p]
  | some q => p :: ancestors q
termination_by p.segments.length
decreasing_by exact length_parent ‹_›

def fileName? (p : Path) : Option String := (trimEnd p.parts.2).getLast?.filter (· ≠ "..")

/-- What follows the last dot of the file name, unless it begins with that dot. -/
def extension? (p : Path) : Option String := do
  let name := (← p.fileName?).toList
  let (tail, stem) := name.reverse.span (· ≠ '.')
  match stem with
  | [] | [_] => none
  | _ => some (String.ofList tail.reverse)

def dropComponents : (n : Nat) → List String → List String
  | 0, segments => segments
  | n + 1, segments => dropComponents n (trimStart segments).tail

def stripPrefix? (p base : Path) : Option Path :=
  let (front, body) := p.parts
  if base.components.isEmpty then some ⟨p.rooted, front ++ trimEnd body⟩
  else if base.components.isPrefixOf p.components then
    let lead := if base.rooted then 1 else base.parts.1.length
    some (ofNames (trimEnd (trimStart (dropComponents (base.components.length - lead) body))))
  else none

end Path

end Gloss
