import Gloss.Discovery
import Gloss.Script.Language
import Gloss.Text.Trim
import Gloss.Json.Printer

namespace Gloss

structure Config where
  selectors : List String := Script.Language.all.map (·.id)
  suffix : String := ".properties"
  function : String := "t"
  ignores : List String := ["**/node_modules/**"]
  deriving DecidableEq, Repr

/-- New settings; those that are `none` stay. -/
structure Patch where
  selectors : Option (List String) := none
  suffix : Option String := none
  function : Option String := none
  ignores : Option (List String) := none
  deriving DecidableEq, Repr

def Patch.isEmpty (patch : Patch) : Bool := patch == {}

inductive ConfigError
  | noFunction
  | unknownLanguage (id : String)
  | badIgnore (pattern : String) (fault : Glob.Fault)
  deriving DecidableEq, Repr

def ConfigError.message : ConfigError → String
  | noFunction => "'i18nFuncName' must not be empty"
  | unknownLanguage id =>
    "Unknown language in 'selectors': \"" ++ id ++ "\" (expected one of: "
      ++ ", ".intercalate (Script.Language.all.map (·.id)) ++ ")"
  | badIgnore pattern fault => "Invalid glob pattern in 'ignores': \"" ++ pattern ++ "\": " ++ fault.message

namespace Config

def suffixesOf (cs : List Char) : List (List Char) := ((splitCommas cs).map trim).filter (!·.isEmpty)

def suffixes (config : Config) : List String := (suffixesOf config.suffix.toList).map String.ofList

def languages (config : Config) : List Script.Language := config.selectors.filterMap Script.Language.ofId?

def merged (config : Config) (patch : Patch) : Config where
  selectors := patch.selectors.getD config.selectors
  suffix := patch.suffix.getD config.suffix
  function := patch.function.getD config.function
  ignores := patch.ignores.getD config.ignores

@[simp] theorem merged_empty (config : Config) : config.merged {} = config := rfl

def checkFunction (config : Config) : Except ConfigError Unit :=
  if (trim config.function.toList).isEmpty then .error .noFunction else .ok ()

def checkSelectors : List String → Except ConfigError Unit
  | [] => .ok ()
  | id :: ids =>
    if (Script.Language.ofId? id).isSome then checkSelectors ids else .error (.unknownLanguage id)

def checkIgnores : List String → Except ConfigError Unit
  | [] => .ok ()
  | pattern :: patterns =>
    match Glob.parse pattern with
    | .ok _ => checkIgnores patterns
    | .error fault => .error (.badIgnore pattern fault)

def validate (config : Config) : Except ConfigError Unit := do
  config.checkFunction
  checkSelectors config.selectors
  checkIgnores config.ignores

def toJson (config : Config) : Json :=
  .object [("selectors", .texts config.selectors), ("i18nFileSuffix", .text config.suffix),
    ("i18nFuncName", .text config.function), ("ignores", .texts config.ignores)]

def render (config : Config) : String := config.toJson.pretty 0

end Config

end Gloss
