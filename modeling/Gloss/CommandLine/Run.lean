import Gloss.CommandLine.Command
import Gloss.Engine.View
import Gloss.FileTree.Change
import Gloss.Report

namespace Gloss.CommandLine

structure Result where
  code : Nat
  output : String := ""
  errors : String := ""
  tree : FileTree

inductive Status
  | success
  | failure
  | broken
  deriving DecidableEq, Repr

def Status.code : Status → Nat
  | success => 0
  | failure => 1
  | broken => 2

def errorLine (message : String) : String := "Error: " ++ message ++ "\n"

def complaintsOf (isColored isVerbose : Bool) (summary : Summary) : String :=
  Report.complaints isColored isVerbose (summary.warnings.map fun w => ⟨w.path.text, w.error.message⟩)

def counted (n : Nat) (noun : String) : String := toString n ++ " " ++ if n = 1 then noun else noun ++ "s"

structure FileHints where
  file : Path
  hints : Except FileError (List Hint)

namespace FileHints

def ofFile (engine : Engine) (tree : FileTree) (file : Path) : FileHints :=
  ⟨file, (tree.readText file).map fun text => engine.hintsOf text file⟩

def found? (r : FileHints) : Option (Path × List Hint) :=
  match r.hints with
  | .ok hints => some (r.file, hints)
  | .error _ => none

def failure? (isColored : Bool) (r : FileHints) : Option String :=
  match r.hints with
  | .ok _ => none
  | .error e =>
    some (Report.failure isColored r.file.text s!"Failed to read source file: {r.file.text}: {e.message}")

end FileHints

def hintsJson (found : List (Path × List Hint)) : Json :=
  .list (found.map fun (file, hints) =>
    .object [("filePath", .text file.text), ("hints", .list (hints.map (·.toJson)))])

def hintsText (isColored : Bool) (found : List (Path × List Hint)) : String :=
  let total := found.foldr (fun (_, hints) n => hints.length + n) 0
  String.join (found.map fun (file, hints) => Report.hints isColored file.text hints)
    ++ Report.success isColored
      ("Resolved " ++ counted total "hint" ++ " in " ++ counted found.length "file")

def candidatesJson (candidates : List Candidate) : Json :=
  .list (candidates.map fun c => .object [("key", .text c.key), ("text", .text c.text)])

namespace Command

def withEngine (isColored : Bool) (tree : FileTree) (project : ProjectChoice) (next : Engine → Result) :
    Result :=
  match Engine.ofRoot tree project.root project.overrides with
  | .error e => ⟨Status.broken.code, "", errorLine e.message, tree⟩
  | .ok engine =>
    let (summary, engine) := engine.reload tree
    let result := next engine
    { result with errors := complaintsOf isColored project.isVerbose summary ++ result.errors }

def showHints (isColored : Bool) (tree : FileTree) (files : List Path) (asJson : Bool) (engine : Engine) :
    Result :=
  let results := files.map (FileHints.ofFile engine tree)
  let found := results.filterMap (·.found?)
  let failures := results.filterMap (·.failure? isColored)
  { code := (if failures.isEmpty then Status.success else Status.failure).code
    output := if asJson then (hintsJson found).pretty 0 ++ "\n" else hintsText isColored found
    errors := String.join failures
    tree }

def showCandidates (isColored : Bool) (tree : FileTree) (line : Option String) (asJson : Bool)
    (engine : Engine) : Result :=
  let candidates := match line with
    | some line => (engine.completionsAfter line).getD []
    | none => engine.completions
  { code := Status.success.code
    output :=
      if asJson then (candidatesJson candidates).pretty 0 ++ "\n" else Report.candidates isColored candidates
    tree }

def writeConfig (isColored : Bool) (tree : FileTree) (file : Path) : Result :=
  if tree.isPresent file then ⟨Status.failure.code, "", errorLine s!"{file.text} already exists", tree⟩
  else
    match tree.createText file (Config.render {}) with
    | .error e => ⟨Status.broken.code, "", errorLine s!"Failed to write {file.text}: {e.message}", tree⟩
    | .ok changed => ⟨Status.success.code, Report.success isColored s!"Created {file.text}", "", changed⟩

def run (isColored : Bool) (tree : FileTree) : Command → Result
  | .hints files asJson project => withEngine isColored tree project (showHints isColored tree files asJson)
  | .completions line asJson project =>
    withEngine isColored tree project (showCandidates isColored tree line asJson)
  | .init file => writeConfig isColored tree file
  | .serve => ⟨Status.success.code, "", "", tree⟩

end Command

def Stop.result (isColored : Bool) (tree : FileTree) : Stop → Result
  | .fault f => ⟨Status.broken.code, "", f.message.render isColored, tree⟩
  | .help scope => ⟨Status.success.code, scope.helpText.render isColored, "", tree⟩
  | .version => ⟨Status.success.code, programVersion, "", tree⟩

def run (isColored : Bool) (tree : FileTree) (words : List String) : Result :=
  match Command.read words with
  | .error stop => stop.result isColored tree
  | .ok command => command.run isColored tree

end Gloss.CommandLine
