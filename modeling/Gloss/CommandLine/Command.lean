import Gloss.CommandLine.Reader
import Gloss.Config

namespace Gloss.CommandLine

structure ProjectChoice where
  root : Path
  overrides : Patch
  isVerbose : Bool

inductive Command
  | hints (files : List Path) (asJson : Bool) (project : ProjectChoice)
  | completions (line : Option String) (asJson : Bool) (project : ProjectChoice)
  | init (file : Path)
  | serve

namespace Given

def root? (given : Given) : Option Path := (given.value? "source-root").map .ofText

def project (given : Given) : ProjectChoice where
  root := given.root?.getD (.ofText ".")
  overrides := { suffix := given.value? "suffix", function := given.value? "func-name" }
  isVerbose := given.has "verbose"

def configFile (given : Given) : Path :=
  let file := Path.ofText configName
  match given.root? with
  | some directory => directory.join file
  | none => file

end Given

def Subcommand.command (given : Given) : Subcommand → Command
  | hints => .hints (given.operands.map .ofText) (given.has "json") given.project
  | completions => .completions (given.value? "line-prefix") (given.has "json") given.project
  | init => .init given.configFile
  | serve => .serve

def Command.read (words : List String) : Except Stop Command :=
  (readWords {} words).map fun (c, given) => c.command given

end Gloss.CommandLine
