import Gloss.Text.Columns
import Gloss.Text.Style

namespace Gloss.CommandLine

inductive Effect
  | flag
  | text (placeholder : String)
  | path (placeholder : String)
  | help
  | version
  deriving DecidableEq, Repr

structure Switch where
  long : String
  short : Option Char := none
  effect : Effect := .flag
  description : String
  deriving DecidableEq, Repr

namespace Switch

def placeholder? (s : Switch) : Option String :=
  match s.effect with
  | .text placeholder | .path placeholder => some placeholder
  | _ => none

def argument (s : Switch) : String := ((s.placeholder?.map (" <" ++ · ++ ">")).getD "")

def text (s : Switch) : String := "--" ++ s.long ++ s.argument

def help : Switch where
  long := "help"
  short := some 'h'
  effect := .help
  description := "Print help"

def version : Switch where
  long := "version"
  short := some 'V'
  effect := .version
  description := "Print version"

end Switch

def literal (s : String) : Markup := .styled [.bold] s

def heading (s : String) : Markup := .styled [.bold, .underlined] s

def plain (s : String) : Markup := .plain s

def table (rows : List (Markup × String)) : Markup :=
  let width := (rows.map fun row => columns row.1.text).foldl max 0
  rows.flatMap fun (m, description) =>
    m ++ plain (String.ofList (List.replicate (width - columns m.text + 2) ' ') ++ description ++ "\n")

def Switch.row (s : Switch) : Markup × String :=
  let front := match s.short with
    | some c => plain "  " ++ literal ("-" ++ c.toString) ++ plain ", "
    | none => plain "      "
  (front ++ literal ("--" ++ s.long) ++ plain s.argument, s.description)

def programName : String := "fine-i18n"

def programVersion : String := programName ++ " 0.1.0\n"

inductive Subcommand
  | hints
  | completions
  | init
  | serve
  deriving DecidableEq, Repr

namespace Subcommand

def all : List Subcommand := [hints, completions, init, serve]

def name : Subcommand → String
  | hints => "hints"
  | completions => "completions"
  | init => "init"
  | serve => "serve"

def ofName? (name : String) : Option Subcommand := all.find? (·.name == name)

def about : Subcommand → String
  | hints => "Show the dictionary text for each translation call in the given files"
  | completions => "List dictionary keys with their text"
  | init => "Initialize a new .finei18nrc.json configuration file"
  | serve => "Start MCP server for editors and AI coding agents"

def projectSwitches : List Switch :=
  [{ long := "source-root", effect := .path "SOURCE_ROOT",
     description := "Project root directory to search for dictionary files (default: current directory)" },
   { long := "suffix", effect := .text "SUFFIX",
     description :=
       "Comma-separated dictionary file suffixes, e.g. \".properties,.json\" (overrides config file)" },
   { long := "func-name", effect := .text "FUNC_NAME",
     description := "Translation function name (overrides config file)" },
   { long := "verbose", short := some 'v', description := "Enable verbose output" }]

def ownSwitches : Subcommand → List Switch
  | hints => { long := "json", description := "Print hints as JSON" } :: projectSwitches
  | completions =>
    { long := "line-prefix", effect := .text "LINE_PREFIX",
      description := "Only list candidates if this text (up to the cursor) ends in a translation call "
        ++ "opening, e.g. \x60t(\"\x60" }
      :: { long := "json", description := "Print candidates as JSON" } :: projectSwitches
  | init =>
    [{ long := "source-root", effect := .path "SOURCE_ROOT",
       description := "Directory to create the config file in (default: current directory)" }]
  | serve => []

def switches (c : Subcommand) : List Switch := c.ownSwitches ++ [.help]

def operand? : Subcommand → Option (String × String)
  | hints => some ("<FILES>...", "Source files to resolve")
  | _ => none

end Subcommand

inductive Scope
  | program
  | command (c : Subcommand)
  | help

namespace Scope

def helpAbout : String := "Print this message or the help of the given subcommand(s)"

def about : Scope → String
  | program => "Inline translation hints and key completion for i18n function calls in JS/TS sources"
  | command c => c.about
  | help => helpAbout

def title : Scope → String
  | program => programName
  | command c => programName ++ " " ++ c.name
  | help => programName ++ " help"

def switches : Scope → List Switch
  | program => [.help, .version]
  | command c => c.switches
  | help => []

def operand? : Scope → Option (String × String)
  | program => none
  | command c => c.operand?
  | help => some ("[COMMAND]...", "Print help for the subcommand(s)")

def hasOptions : Scope → Bool
  | command c => !c.ownSwitches.isEmpty
  | _ => false

def operandPart (s : Scope) : String := (s.operand?.map (" " ++ ·.1)).getD ""

def usage (s : Scope) : Markup :=
  heading "Usage:" ++ plain " " ++ literal s.title
    ++ plain ((if s.hasOptions then " [OPTIONS]" else "") ++ s.operandPart
      ++ match s with
        | program => " [COMMAND]"
        | _ => "")

def usageWith (s : Scope) (used : List Switch) (hasOperands : Bool) : Markup :=
  if used.isEmpty && !hasOperands then s.usage
  else
    heading "Usage:" ++ plain " " ++ literal s.title
      ++ (used.eraseDups.flatMap fun switch =>
        plain " " ++ literal ("--" ++ switch.long) ++ plain switch.argument)
      ++ plain s.operandPart

def operandTable (s : Scope) : Markup :=
  match s.operand? with
  | some (name, description) =>
    plain "\n" ++ heading "Arguments:" ++ plain "\n" ++ table [(plain ("  " ++ name), description)]
  | none => []

def commandTable : Scope → Markup
  | program =>
    plain "\n" ++ heading "Commands:" ++ plain "\n"
      ++ table (Subcommand.all.map (fun c => (plain "  " ++ literal c.name, c.about))
        ++ [(plain "  " ++ literal "help", helpAbout)])
  | _ => []

def switchTable (s : Scope) : Markup :=
  if s.switches.isEmpty then []
  else plain "\n" ++ heading "Options:" ++ plain "\n" ++ table (s.switches.map Switch.row)

def helpText (s : Scope) : Markup :=
  plain (s.about ++ "\n\n") ++ s.usage ++ plain "\n" ++ s.commandTable ++ s.operandTable ++ s.switchTable

end Scope

end Gloss.CommandLine
