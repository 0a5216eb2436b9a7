import Gloss.Glob.Match
import Gloss.FileTree

/-!
Which files of a tree are dictionaries: those with one of the suffixes, in the order of the
suffixes and then of their names, but for what ignore patterns cover. `isDiscoverable` judges a
path by its spelling alone.
-/

namespace Gloss

def configName : String := ".finei18nrc.json"

namespace Discovery

structure Filter where
  suffixes : List Glob
  ignores : List Glob

namespace Filter

def suffixPattern (suffix : String) : String := "**/*" ++ suffix

def patterns (texts : List String) : List Glob := texts.filterMap fun t => (Glob.parse t).toOption

def ofSettings (suffixes ignores : List String) : Filter :=
  ⟨patterns (suffixes.map suffixPattern), patterns ignores⟩

/-- Paths are relative to the root; a directory is also ignored if a pattern covers what is in it. -/
def isIgnored (filter : Filter) (path : Path) (isDirectory : Bool) : Bool :=
  filter.ignores.any fun g =>
    g.hits path.text || (isDirectory && g.hits (path.join (.ofText "_")).text)

def isExcluded (filter : Filter) (path : Path) : Bool :=
  (path.ancestors.filter (· ≠ .empty)).any fun a => filter.isIgnored a (a.components ≠ path.components)

/-- The first suffix that a path matches; a configuration file matches none. -/
def suffixIndex? (filter : Filter) (path : Path) : Option Nat :=
  if path.fileName? = some configName then none else filter.suffixes.findIdx? (·.hits path.text)

def admits (filter : Filter) (path : Path) : Bool :=
  (filter.suffixIndex? path).isSome && !filter.isExcluded path

end Filter

mutual

def filesBelow (filter : Filter) (names : List String) : Node → List (List String)
  | .file _ => [names]
  | .link _ => []
  | .directory entries => filesOf filter names entries

def filesOf (filter : Filter) (names : List String) : List (String × Node) → List (List String)
  | [] => []
  | (name, node) :: rest =>
    (if filter.isIgnored (.ofNames (names ++ [name])) node.isDirectory then []
      else filesBelow filter (names ++ [name]) node) ++ filesOf filter names rest

end

def lexicographic : List String → List String → Bool
  | [], _ => true
  | _ :: _, [] => false
  | a :: as, b :: bs => if a = b then lexicographic as bs else a < b

def sort (files : List (List String)) : List (List String) := files.mergeSort lexicographic

def arrange (filter : Filter) (files : List (List String)) : List (List String) :=
  (List.range filter.suffixes.length).flatMap fun i =>
    sort (files.filter fun names => filter.suffixIndex? (.ofNames names) = some i)

def under (root : Path) (names : List String) : Path :=
  names.foldl (fun p name => p.join (.ofNames [name])) root

/-- The node at a root: a root that is a link stands for the directory it leads to. -/
def rootNode (tree : FileTree) (root : Path) : Except FileError Node :=
  match tree.resolve false root with
  | .error e => .error e
  | .ok (_, .link target) =>
    match tree.node root with
    | .error e => .error e
    | .ok node => .ok (if node.isDirectory then node else .link target)
  | .ok (_, node) => .ok node

end Discovery

structure Discovery where
  files : List Path
  skipped : Nat

namespace Discovery

def ofTree (tree : FileTree) (root : Path) (suffixes ignores : List String) : Discovery :=
  let filter := Filter.ofSettings suffixes ignores
  if filter.suffixes.isEmpty then ⟨[], 0⟩
  else
    match rootNode tree root with
    | .error _ => ⟨[], 1⟩
    | .ok node => ⟨(arrange filter (filesBelow filter [] node)).map (under root), 0⟩

end Discovery

/-- Whether a path is spelled like a file that discovery below the root would list. -/
def isDiscoverable (root path : Path) (suffixes ignores : List String) : Bool :=
  match path.stripPrefix? root with
  | none => false
  | some p => (Discovery.Filter.ofSettings suffixes ignores).admits p

end Gloss
