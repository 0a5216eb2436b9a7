import Gloss.Path

/-!
A file system as a value: directories with named entries, files and symbolic links. Paths resolve
segment by segment, and following more than `linkLimit` links is a fault.
-/

namespace Gloss

inductive Node
  | file (bytes : ByteArray)
  | link (target : Path)
  | directory (entries : List (String × Node))
  deriving Inhabited

namespace Node

def isDirectory : Node → Bool
  | directory _ => true
  | _ => false

def entry? (name : String) : Node → Option Node
  | directory entries => entries.lookup name
  | _ => none

def find? (node : Node) (names : List String) : Option Node :=
  names.foldlM (fun n name => n.entry? name) node

end Node

inductive FileError
  | notFound
  | notDirectory
  | isDirectory
  | tooManyLinks
  | notText
  deriving DecidableEq, Repr

def FileError.message : FileError → String
  | notFound => "No such file or directory (os error 2)"
  | notDirectory => "Not a directory (os error 20)"
  | isDirectory => "Is a directory (os error 21)"
  | tooManyLinks => "Too many levels of symbolic links (os error 40)"
  | notText => "stream did not contain valid UTF-8"

structure FileTree where
  top : Node
  here : List String := []

namespace FileTree

def linkLimit : Nat := 40

/-- Where segments lead from a directory, given by names from the top, and what stands there;
`links` more links may be followed, the last segment's only if `follow` holds. -/
def walk (top : Node) (follow : Bool) (links : Nat) (place : List String) :
    List String → Except FileError (List String × Node)
  | [] =>
    match top.find? place with
    | some node => .ok (place, node)
    | none => .error .notFound
  | s :: rest =>
    match top.find? place with
    | none => .error .notFound
    | some node =>
      if !node.isDirectory then .error .notDirectory
      else if Path.isVoid s then walk top follow links place rest
      else if s = ".." then walk top follow links place.dropLast rest
      else
        match node.entry? s with
        | none => .error .notFound
        | some (.link target) =>
          if rest.isEmpty && !follow then .ok (place ++ [s], .link target)
          else
            match links with
            | 0 => .error .tooManyLinks
            | links + 1 =>
              walk top follow links (if target.rooted then [] else place) (target.segments ++ rest)
        | some _ => walk top follow links (place ++ [s]) rest
termination_by segments => (links, segments.length)

def resolve (tree : FileTree) (follow : Bool) (path : Path) : Except FileError (List String × Node) :=
  if path.rooted then walk tree.top follow linkLimit [] path.segments
  else if path.segments.isEmpty then .error .notFound
  else walk tree.top follow linkLimit tree.here path.segments

def node (tree : FileTree) (path : Path) : Except FileError Node := (tree.resolve true path).map (·.2)

def isPresent (tree : FileTree) (path : Path) : Bool := (tree.node path).isOk

def readText (tree : FileTree) (path : Path) : Except FileError String := do
  match ← tree.node path with
  | .file bytes =>
    match String.fromUTF8? bytes with
    | some text => .ok text
    | none => .error .notText
  | .directory _ => .error .isDirectory
  | .link _ => .error .notFound

end FileTree

end Gloss
