import Gloss.Hint
import Gloss.Text.Columns
import Gloss.Text.Style

namespace Gloss.Report

open Style (paint)

def blanks (n : Nat) : String := String.ofList (List.replicate n ' ')

def widest (texts : List String) : Nat := (texts.map columns).foldl max 0

def padding (s : String) (width : Nat) : String := blanks (width - columns s)

def location (file : String) (position : Position) : String :=
  s!"{file}:{position.line + 1}:{position.character + 1}"

def hintLine (isColored : Bool) (file : String) (width : Nat) (hint : Hint) : String :=
  let location := location file hint.position
  paint isColored [.blue] location ++ padding location width ++ " "
    ++ paint isColored [.bold] hint.key ++ " " ++ paint isColored [.dimmed] "→" ++ " " ++ hint.text ++ "\n"

def hints (isColored : Bool) (file : String) (hints : List Hint) : String :=
  let width := widest (hints.map fun hint => location file hint.position)
  String.join (hints.map (hintLine isColored file width))

def candidateLine (isColored : Bool) (width : Nat) (c : Candidate) : String :=
  paint isColored [.bold] c.key ++ padding c.key width ++ "  " ++ c.text ++ "\n"

def candidates (isColored : Bool) (candidates : List Candidate) : String :=
  let width := widest (candidates.map (·.key))
  String.join (candidates.map (candidateLine isColored width))

def success (isColored : Bool) (message : String) : String :=
  paint isColored [.green] "✓" ++ " " ++ paint isColored [.green] message ++ "\n"

def warningLabel (isColored : Bool) : String := paint isColored [.bold, .yellow] "warning:"

structure Complaint where
  file : String
  message : String

def complaint (isColored : Bool) (c : Complaint) : String :=
  warningLabel isColored ++ " " ++ c.message ++ "\n"
    ++ "  " ++ paint isColored [.blue] "-->" ++ " " ++ c.file ++ "\n"

def complaints (isColored isVerbose : Bool) (cs : List Complaint) : String :=
  if cs.isEmpty then ""
  else if isVerbose then String.join (cs.map (complaint isColored))
  else
    warningLabel isColored ++ " " ++ toString cs.length ++ " dictionary file(s) could not be loaded (use "
      ++ paint isColored [.cyan] "-v" ++ " for details)\n"

def failure (isColored : Bool) (file message : String) : String :=
  paint isColored [.red] "✘" ++ " " ++ paint isColored [.bold, .red] "error:" ++ " "
    ++ file ++ ": " ++ message ++ "\n"

end Gloss.Report
