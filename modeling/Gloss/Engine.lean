import Gloss.Loading
import Gloss.Hint
import Gloss.Config.Search

/-!
A project: its root, its settings and its dictionary. Files are those of a tree at the time of the
call; a reload starts over, and a saved file is laid over what is there.
-/

namespace Gloss

structure Summary where
  filesLoaded : Nat
  keyCount : Nat
  skipped : Nat
  warnings : List Warning

inductive Outcome
  | ignored
  | merged (keys : Nat)
  | failed (warning : Warning)

structure Engine where
  root : Path
  config : Config
  dictionary : Dictionary := ∅

namespace Engine

inductive Error
  | load (e : Config.LoadError)
  | config (e : ConfigError)

def Error.message : Error → String
  | load e => e.message
  | config e => e.message

def ofRoot (tree : FileTree) (root : Path) (overrides : Patch) : Except Error Engine := do
  let loaded ← (Config.load tree root).mapError .load
  let config := loaded.config.merged overrides
  config.validate.mapError .config
  .ok ⟨root, config, ∅⟩

def discover (engine : Engine) (tree : FileTree) : Discovery :=
  Discovery.ofTree tree engine.root engine.config.suffixes engine.config.ignores

def reload (engine : Engine) (tree : FileTree) : Summary × Engine :=
  let found := engine.discover tree
  let loading := Loading.ofFiles tree found.files
  let dictionary := Dictionary.merge loading.layers
  (⟨loading.files.length, dictionary.size, found.skipped, loading.warnings⟩, { engine with dictionary })

def admits (engine : Engine) (path : Path) : Bool :=
  isDiscoverable engine.root path engine.config.suffixes engine.config.ignores

/-- Lays a saved file over the dictionary, if a reload would look at it. -/
def reloadFile (engine : Engine) (tree : FileTree) (path : Path) : Outcome × Engine :=
  if (Format.ofPath? path).isNone then (.ignored, engine)
  else
    let path := engine.root.join path
    if engine.admits path then
      match loadFile tree path with
      | .ok entries =>
        (.merged entries.size, { engine with dictionary := engine.dictionary.overlay entries })
      | .error e => (.failed ⟨path, e⟩, engine)
    else (.ignored, engine)

/-- Reloads with updated settings, or leaves all as it is if these are not valid. -/
def reconfigure (engine : Engine) (tree : FileTree) (patch : Patch) :
    Except ConfigError (Summary × Engine) := do
  let config := engine.config.merged patch
  config.validate
  .ok ({ engine with config }.reload tree)

def resolveBy (parser : Script.Parser) (visitor : Script.Visitor) (engine : Engine) (text : String)
    (language : Script.Language) : List Hint :=
  Hint.resolve (Script.CallSite.scanBy parser visitor text engine.config.function language) engine.dictionary

def resolve (engine : Engine) (text : String) (language : Script.Language) : List Hint :=
  engine.resolveBy Script.parse? .byFields text language

def hintsIn (engine : Engine) (text : String) (language : Script.Language) : List Hint :=
  if language ∈ engine.config.languages then engine.resolve text language else []

def languageOf? (path : Path) : Option Script.Language := path.extension?.bind Script.Language.ofExtension?

def hintsOf (engine : Engine) (text : String) (path : Path) : List Hint :=
  match languageOf? path with
  | some language => engine.hintsIn text language
  | none => []

def hints (engine : Engine) (text : String) : List Hint := engine.resolve text .typescriptReact

def completions (engine : Engine) : List Candidate := Candidate.ofDictionary engine.dictionary

def completionsAfter (engine : Engine) (line : String) : Option (List Candidate) :=
  if Candidate.isTriggered line engine.config.function then some engine.completions else none

end Engine

end Gloss
