import Gloss.FileTree
import Gloss.Format

namespace Gloss

inductive LoadError
  | unreadable (path : Path) (e : FileError)
  | malformed (path : Path) (e : Format.Error)

def LoadError.message : LoadError → String
  | unreadable path e => s!"Failed to read dictionary file: {path.text}: {e.message}"
  | malformed path e => s!"Failed to parse dictionary file: {path.text}: {e.message}"

def loadFile (tree : FileTree) (path : Path) : Except LoadError Dictionary :=
  match tree.readText path with
  | .error e => .error (.unreadable path e)
  | .ok text => (Format.parseFile path text).mapError (.malformed path)

structure Warning where
  path : Path
  error : LoadError

structure Loading where
  files : List (Path × Dictionary) := []
  warnings : List Warning := []

namespace Loading

def ofFiles (tree : FileTree) : List Path → Loading
  | [] => {}
  | path :: paths =>
    let rest := ofFiles tree paths
    match loadFile tree path with
    | .ok entries => { rest with files := (path, entries) :: rest.files }
    | .error e => { rest with warnings := ⟨path, e⟩ :: rest.warnings }

def layers (loading : Loading) : List Dictionary := loading.files.map (·.2)

/-- Keys that several files define count for each of them. -/
def keyCount (loading : Loading) : Nat := loading.layers.foldr (·.size + ·) 0

end Loading

end Gloss
