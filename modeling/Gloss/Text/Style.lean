namespace Gloss

inductive Style
  | bold
  | dimmed
  | underlined
  | red
  | green
  | yellow
  | blue
  | cyan
  deriving DecidableEq, Repr

namespace Style

def code : Style → String
  | bold => "1"
  | dimmed => "2"
  | underlined => "4"
  | red => "31"
  | green => "32"
  | yellow => "33"
  | blue => "34"
  | cyan => "36"

def escape (styles : List Style) : String :=
  "\x1b[" ++ (if styles.isEmpty then "0" else ";".intercalate (styles.map code)) ++ "m"

/-- A text in some styles. Where the text ends all styles itself, they begin again. -/
def paint (isColored : Bool) (styles : List Style) (s : String) : String :=
  if isColored then escape styles ++ s.replace (escape []) (escape [] ++ escape styles) ++ escape []
  else s

end Style

abbrev Markup := List (List Style × String)

namespace Markup

def plain (s : String) : Markup := [([], s)]

def styled (styles : List Style) (s : String) : Markup := [(styles, s)]

def text (m : Markup) : String := String.join (m.map (·.2))

def renderPiece (isColored : Bool) : List Style × String → String
  | (styles, s) =>
    if isColored && !styles.isEmpty then
      String.join (styles.map fun style => Style.escape [style]) ++ s ++ Style.escape []
    else s

def render (isColored : Bool) (m : Markup) : String := String.join (m.map (renderPiece isColored))

end Markup

end Gloss
