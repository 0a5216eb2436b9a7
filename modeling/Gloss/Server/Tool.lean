import Gloss.Server.Request
import Gloss.Server.Parameter

namespace Gloss

inductive Tool
  | configure
  | getConfig
  | listCompletions
  | reloadDictionary
  | reloadFile
  | resolveHints
  deriving DecidableEq, Repr

structure Call where
  root : Path
  request : Request

namespace Tool

def all : List Tool := [configure, getConfig, listCompletions, reloadDictionary, reloadFile, resolveHints]

def name : Tool → String
  | configure => "configure"
  | getConfig => "get_config"
  | listCompletions => "list_completions"
  | reloadDictionary => "reload_dictionary"
  | reloadFile => "reload_file"
  | resolveHints => "resolve_hints"

def ofName? (name : String) : Option Tool := all.find? (·.name == name)

def description : Tool → String
  | configure =>
    "Change the dictionary file suffixes, translation function name or language selectors of a project, "
      ++ "then rebuild its dictionary. Omitted fields are kept."
  | getConfig =>
    "Get the effective fine-i18n configuration of a project: dictionary file suffixes, translation "
      ++ "function name, language selectors and ignore patterns."
  | listCompletions =>
    "List dictionary keys with their decoded text as completion candidates (paginated). With linePrefix, "
      ++ "candidates are only returned when it ends in a translation call opening such as t(\"."
  | reloadDictionary =>
    "Rebuild the project's dictionary from scratch by re-reading every dictionary file. Use after files "
      ++ "were added, deleted or renamed."
  | reloadFile =>
    "Merge a saved dictionary file into the dictionary. Files that a full reload would not load (other "
      ++ "suffixes, ignored paths) are ignored. Keys removed from the file stay until reload_dictionary."
  | resolveHints =>
    "Find translation calls like t(\"key\") in a JS/TS document and return the dictionary text for each, "
      ++ "positioned just after the key literal (0-based line, UTF-16 character). Missing keys are omitted."

def signature : Tool → String × String
  | configure => ("ConfigureParams", "Parameters for configure. Omitted fields keep their current value.")
  | getConfig | reloadDictionary => ("ProjectParams", "Parameters for tools that only need the project")
  | listCompletions => ("ListCompletionsParams", "Parameters for list_completions")
  | reloadFile => ("ReloadFileParams", "Parameters for reload_file")
  | resolveHints =>
    ("ResolveHintsParams", "Parameters for resolve_hints. Give \x60text\x60, \x60filePath\x60, or both.")

def rootParameter : Parameter where
  name := "projectRootPath"
  form := .text
  isRequired := true
  description := some "Absolute path of the project root"

def parameters : Tool → List Parameter
  | getConfig | reloadDictionary => [rootParameter]
  | reloadFile =>
    [rootParameter, ⟨"filePath", .text, true, some "Saved file, absolute or relative to the project root"⟩]
  | configure =>
    [rootParameter,
      ⟨"i18nFileSuffix", .text, false,
        some "Comma-separated dictionary file suffixes, e.g. \".properties,.json\""⟩,
      ⟨"i18nFuncName", .text, false, some "Translation function name, e.g. \"t\""⟩,
      ⟨"selectors", .texts, false, some "Language identifiers to resolve hints for"⟩]
  | resolveHints =>
    [rootParameter,
      ⟨"text", .text, false, some "Document text; read from \x60filePath\x60 when omitted"⟩,
      ⟨"filePath", .text, false, some "Document path, absolute or relative to the project root"⟩,
      ⟨"languageId", .text, false,
        some "Language identifier (typescript, typescriptreact, javascript, javascriptreact)"⟩]
  | listCompletions =>
    [rootParameter,
      ⟨"linePrefix", .text, false,
        some ("Line text up to the cursor. When given, candidates are only listed\n"
          ++ "right after a translation call opening like \x60t(\"\x60")⟩,
      ⟨"offset", .count, false, none⟩,
      ⟨"limit", .count, false, none⟩]

def request (arguments : Arguments) : Tool → Request
  | getConfig => .settings
  | reloadDictionary => .reload
  | reloadFile => .reloadFile (.ofText ((arguments.text? "filePath").getD ""))
  | configure => .configure
    { selectors := arguments.texts? "selectors"
      suffix := arguments.text? "i18nFileSuffix"
      function := arguments.text? "i18nFuncName" }
  | resolveHints =>
    .hints (Source.ofParts? (arguments.text? "text") ((arguments.text? "filePath").map .ofText))
      (arguments.text? "languageId")
  | listCompletions =>
    .completions (arguments.text? "linePrefix") (arguments.count? "offset") (arguments.count? "limit")

def call (tool : Tool) (arguments : Json) : Except Json.Cause Call :=
  (Parameter.readAll tool.signature.1 tool.parameters arguments).map fun arguments =>
    ⟨.ofText ((arguments.text? "projectRootPath").getD ""), tool.request arguments⟩

end Tool

end Gloss
