import Gloss.Config.Reader

namespace Gloss.Config

def markerName : String := ".git"

def fileIn (directory : Path) : Path := directory.join (.ofText configName)

/-- The first configuration file in one of the directories, none after one with the marker. -/
def firstFile? (tree : FileTree) : List Path → Option Path
  | [] => none
  | d :: ds =>
    if tree.isPresent (fileIn d) then some (fileIn d)
    else if tree.isPresent (d.join (.ofText markerName)) then none
    else firstFile? tree ds

def find? (tree : FileTree) (start : Path) : Option Path := firstFile? tree start.ancestors

inductive LoadError
  | unreadable (e : FileError)
  | malformed (path : Path) (e : Json.Error)
  | invalid (e : ConfigError)

def LoadError.message : LoadError → String
  | unreadable e => e.message
  | malformed path e => s!"Failed to parse config file: {Quoted.text path.text}: {e.message}"
  | invalid e => e.message

structure Loaded where
  config : Config
  fromFile : Bool

def load (tree : FileTree) (start : Path) : Except LoadError Loaded :=
  match find? tree start with
  | none => .ok ⟨{}, false⟩
  | some path => do
    let text ← (tree.readText path).mapError .unreadable
    let config ← (Config.read text).mapError (.malformed path)
    config.validate.mapError .invalid
    .ok ⟨config, true⟩

end Gloss.Config
