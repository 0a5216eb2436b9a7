import Gloss.FileTree

namespace Gloss

namespace Node

def emptyDirectory : Node := directory []

def setEntry (name : String) (node : Node) : List (String × Node) → List (String × Node)
  | [] => [(name, node)]
  | e :: es => if e.1 = name then (name, node) :: es else e :: setEntry name node es

def put (leaf : Node) : List String → Node → Node
  | [], _ => leaf
  | name :: names, node =>
    let entries := match node with
      | directory entries => entries
      | _ => []
    directory (setEntry name (put leaf names ((entries.lookup name).getD emptyDirectory)) entries)

def erase : List String → Node → Node
  | [], node => node
  | [name], directory entries => directory (entries.filter (·.1 != name))
  | name :: names, directory entries =>
    match entries.lookup name with
    | some child => directory (setEntry name (erase names child) entries)
    | none => directory entries
  | _, node => node

end Node

namespace FileTree

def landing (tree : FileTree) (place : List String) (segments : List String) : List String :=
  segments.foldl (fun place s =>
    if Path.isVoid s then place
    else if s = ".." then place.dropLast
    else
      match walk tree.top true linkLimit place [s] with
      | .ok (found, _) => found
      | .error _ => place ++ [s]) place

def start (tree : FileTree) (path : Path) : List String := if path.rooted then [] else tree.here

def put (tree : FileTree) (place : List String) (leaf : Node) : FileTree :=
  { tree with top := Node.put leaf place tree.top }

def ownPlace (tree : FileTree) (path : Path) : List String :=
  let names := Path.trimEnd path.segments
  tree.landing (tree.start path) names.dropLast ++ names.getLast?.toList

def directoryAt (top : Node) (place segments : List String) : Except FileError (List String × Node) := do
  let (found, node) ← walk top true linkLimit place segments
  if node.isDirectory then return (found, node) else throw .notDirectory

/-- Where a file opened for writing stands, if it is there or can come into being; at most `links`
links are followed from its name. -/
def destination (top : Node) (links : Nat) (place segments : List String) : Except FileError (List String) :=
  match segments.getLast? with
  | none => .error .notFound
  | some name => do
    let (found, node) ← directoryAt top place segments.dropLast
    if Path.isVoid name || name == ".." then throw .isDirectory
    match node.entry? name with
    | none | some (.file _) => return found ++ [name]
    | some (.directory _) => throw .isDirectory
    | some (.link target) =>
      match links with
      | 0 => throw .tooManyLinks
      | links + 1 => destination top links (if target.rooted then [] else found) target.segments

def createText (tree : FileTree) (path : Path) (text : String) : Except FileError FileTree := do
  let place ← destination tree.top linkLimit (tree.start path) path.segments
  return tree.put place (.file text.toUTF8)

def writeFile (tree : FileTree) (path : Path) (bytes : ByteArray) : FileTree :=
  tree.put (tree.landing (tree.start path) path.segments) (.file bytes)

def writeText (tree : FileTree) (path : Path) (text : String) : FileTree := tree.writeFile path text.toUTF8

def makeDirectory (tree : FileTree) (path : Path) : FileTree :=
  if tree.isPresent path then tree
  else tree.put (tree.landing (tree.start path) path.segments) .emptyDirectory

def makeLink (tree : FileTree) (path target : Path) : FileTree :=
  tree.put (tree.ownPlace path) (.link target)

def remove (tree : FileTree) (path : Path) : FileTree :=
  { tree with top := Node.erase (tree.ownPlace path) tree.top }

end FileTree

end Gloss
