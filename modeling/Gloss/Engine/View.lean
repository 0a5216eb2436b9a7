import Gloss.Engine

namespace Gloss

def Position.toJson (p : Position) : Json :=
  .object [("line", .ofNat p.line), ("character", .ofNat p.character)]

def Hint.toJson (h : Hint) : Json :=
  .object [("key", .text h.key), ("offset", .ofNat h.offset), ("position", h.position.toJson),
    ("text", .text h.text)]

def Candidate.toJson (c : Candidate) : Json :=
  .object [("key", .text c.key), ("text", .text c.text), ("label", .text c.label),
    ("detail", .text c.detail), ("insertText", .text c.insertion)]

def Warning.fields (w : Warning) : List (String × Json) :=
  [("filePath", .text w.path.text), ("error", .text w.error.message)]

def Summary.toJson (s : Summary) : Json :=
  .object [("filesLoaded", .ofNat s.filesLoaded), ("keyCount", .ofNat s.keyCount),
    ("skippedCount", .ofNat s.skipped), ("warnings", .list (s.warnings.map fun w => .object w.fields))]

def Outcome.toJson : Outcome → Json
  | ignored => .object [("status", .text "ignored")]
  | merged keys => .object [("status", .text "merged"), ("keys", .ofNat keys)]
  | failed w => .object (("status", .text "failed") :: w.fields)

def Config.view (c : Config) : Json :=
  .object [("selectors", .texts c.selectors), ("i18nFileSuffix", .text c.suffix),
    ("fileSuffixes", .texts c.suffixes), ("i18nFuncName", .text c.function), ("ignores", .texts c.ignores)]

end Gloss
