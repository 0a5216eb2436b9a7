import Gloss.Engine.View
import Gloss.Server.Page

namespace Gloss

inductive Source
  | text (content : String) (file : Option Path)
  | file (path : Path)

def Source.file? : Source → Option Path
  | text _ path => path
  | file path => some path

def Source.ofParts? (text : Option String) (path : Option Path) : Option Source :=
  match text with
  | some content => some (.text content path)
  | none => path.map .file

inductive Request
  | settings
  | reload
  | reloadFile (file : Path)
  | configure (patch : Patch)
  | hints (source : Option Source) (language : Option String)
  | completions (line : Option String) (offset limit : Option Nat)

inductive Reply
  | settings (fromFile : Bool) (config : Config)
  | reloaded (summary : Summary)
  | reloadedFile (outcome : Outcome)
  | configured (config : Config) (summary : Summary)
  | hints (language : Option Script.Language) (hints : List Hint)
  | completions (triggered : Bool) (page : Page Candidate)

inductive Refusal
  | load (e : Engine.Error)
  | config (e : ConfigError)
  | noDocument
  | unknownLanguage (id : String)
  | unreadable (path : Path) (e : FileError)

def Refusal.message : Refusal → String
  | load e => s!"Failed to load config: {e.message}"
  | config e => s!"Invalid configuration: {e.message}"
  | noDocument => "Either text or filePath is required"
  | unknownLanguage id => s!"Unknown languageId: {id}"
  | unreadable path e => s!"Failed to read {path.text}: {e.message}"

namespace Reply

def toJson : Reply → Json
  | settings fromFile config => .object [("fromFile", .bool fromFile), ("config", config.view)]
  | reloaded summary => summary.toJson
  | reloadedFile outcome => outcome.toJson
  | configured config summary => .object [("config", config.view), ("reload", summary.toJson)]
  | hints language found =>
    .object [("languageId", .text ((language.map (·.id)).getD "")), ("hints", .list (found.map (·.toJson)))]
  | completions triggered page =>
    .object [("triggered", .bool triggered), ("totalCount", .ofNat page.total),
      ("items", .list (page.items.map (·.toJson))),
      ("pagination", .object [("offset", .ofNat page.offset), ("limit", .ofNat page.limit),
        ("hasMore", .bool page.hasMore)])]

end Reply

namespace Engine

def namedLanguage : Option String → Except Refusal (Option Script.Language)
  | none => .ok none
  | some id =>
    match Script.Language.ofId? id with
    | some language => .ok (some language)
    | none => .error (.unknownLanguage id)

def content (engine : Engine) (tree : FileTree) : Source → Except Refusal String
  | .text content _ => .ok content
  | .file path => (tree.readText (engine.root.join path)).mapError (.unreadable (engine.root.join path))

def hintsFor (engine : Engine) (text : String) : Option Script.Language → Option Path → Reply
  | some language, _ => .hints (some language) (engine.hintsIn text language)
  | none, some path => .hints (languageOf? path) (engine.hintsOf text path)
  | none, none => .hints (some .typescriptReact) (engine.hints text)

def answerHints (engine : Engine) (tree : FileTree) (source : Option Source) (language : Option String) :
    Except Refusal Reply :=
  match source with
  | none => .error .noDocument
  | some source => do
    let language ← namedLanguage language
    let text ← engine.content tree source
    return engine.hintsFor text language (source.file?.map engine.root.join)

def offered (engine : Engine) : Option String → Option (List Candidate)
  | some line => engine.completionsAfter line
  | none => some engine.completions

def answerCompletions (engine : Engine) (line : Option String) (offset limit : Option Nat) : Reply :=
  let offered := engine.offered line
  .completions offered.isSome (.ofList (offered.getD []) (offset.getD 0) (Page.limitOf limit))

def perform (engine : Engine) (tree : FileTree) : Request → Except Refusal Reply × Engine
  | .settings => (.ok (.settings (Config.find? tree engine.root).isSome engine.config), engine)
  | .reload =>
    let (summary, engine) := engine.reload tree
    (.ok (.reloaded summary), engine)
  | .reloadFile file =>
    let (outcome, engine) := engine.reloadFile tree (engine.root.join file)
    (.ok (.reloadedFile outcome), engine)
  | .configure patch =>
    match engine.reconfigure tree patch with
    | .ok (summary, engine) => (.ok (.configured engine.config summary), engine)
    | .error e => (.error (.config e), engine)
  | .hints source language => (engine.answerHints tree source language, engine)
  | .completions line offset limit => (.ok (engine.answerCompletions line offset limit), engine)

end Engine

end Gloss
