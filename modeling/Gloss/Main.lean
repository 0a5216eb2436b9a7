import Gloss.CommandLine.Run
import Gloss.Server.Exchange

namespace Gloss

partial def nodeAt (name : String) : IO Node := do
  let file := (← IO.currentDir) / name
  match (← file.symlinkMetadata).type with
  | .dir =>
    let entries ← file.readDir
    return .directory (← entries.toList.mapM fun e => return (e.fileName, ← nodeAt e.path.toString))
  | .symlink => return .link (.ofText (← IO.FS.realPath file).toString)
  | _ => return .file (← IO.FS.readBinFile file)

def nodeAt? (path : Path) : IO (Option Node) := do
  try return some (← nodeAt path.text) catch _ => return none

def addAll (tree : FileTree) (path : Path) : IO FileTree := do
  match ← nodeAt? path with
  | some node => return tree.put (tree.ownPlace path) node
  | none => return tree

def addOutline (tree : FileTree) (path : Path) : IO FileTree := do
  if tree.isPresent path then return tree
  else if ← ((← IO.currentDir) / path.text).isDir then return tree.makeDirectory path
  else addAll tree path

def addProject (tree : FileTree) (root : Path) : IO FileTree := do
  let markers := root.ancestors.flatMap fun d => [Config.fileIn d, d.join (.ofText Config.markerName)]
  addAll (← markers.foldlM addOutline tree) root

def emptyTree : IO FileTree := do
  let here := Path.ofText (← IO.currentDir).toString
  return { (⟨.emptyDirectory, []⟩ : FileTree).makeDirectory here with here := here.segments }

namespace CommandLine

def Command.survey : Command → IO FileTree
  | .hints files _ project => do files.foldlM addAll (← addProject (← emptyTree) project.root)
  | .completions _ _ project => do addProject (← emptyTree) project.root
  | .init file => do
    let directories := (file.parent?.filter (!·.segments.isEmpty)).toList
    addAll (← directories.foldlM addOutline (← emptyTree)) file
  | .serve => emptyTree

def Command.save (result : Result) : Command → IO Unit
  | .init file => do
    match result.tree.readText file with
    | .ok text => if result.code = Status.success.code then IO.FS.writeFile file.text text
    | .error _ => return ()
  | _ => return ()

def Result.print (result : Result) : IO UInt32 := do
  (← IO.getStderr).putStr result.errors
  (← IO.getStdout).putStr result.output
  return result.code.toUInt32

end CommandLine

namespace Server

def named (message : Json) : List Path :=
  let arguments := ((message.member? "params").bind (·.member? "arguments")).getD .null
  match arguments.member? "projectRootPath", arguments.member? "filePath" with
  | some (.text root), some (.text file) => [.ofText root, (Path.ofText root).join (.ofText file)]
  | some (.text root), _ => [.ofText root]
  | _, _ => []

def surveyFor (line : String) : IO FileTree := do
  match (Json.read line).toOption.map named with
  | some (root :: files) => files.foldlM addAll (← addProject (← emptyTree) root)
  | _ => emptyTree

partial def loop (server : Server) (input output : IO.FS.Stream) : IO Unit := do
  let line ← input.getLine
  if line.isEmpty then return ()
  let (answer, server) := server.answerLine (← surveyFor line) line
  if let some answer := answer then
    output.putStrLn answer
    output.flush
  loop server input output

end Server

def isColored : IO Bool := do
  if (← IO.getEnv "CLICOLOR_FORCE").any (· != "0") then return true
  else if (← IO.getEnv "NO_COLOR").isSome then return false
  else (← IO.getStdout).isTty

end Gloss

def main (arguments : List String) : IO UInt32 := do
  let isColored ← Gloss.isColored
  match Gloss.CommandLine.Command.read arguments with
  | .error stop => (stop.result isColored (← Gloss.emptyTree)).print
  | .ok .serve => do
    Gloss.Server.loop {} (← IO.getStdin) (← IO.getStdout)
    return 0
  | .ok command => do
    let result := command.run isColored (← command.survey)
    command.save result
    result.print
