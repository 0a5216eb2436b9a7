import Gloss.Json.Reader
import Gloss.Server
import Gloss.Server.Schema

namespace Gloss.Server

inductive Rejection
  | unknownMethod (name : String)
  | unknownTool
  | badArguments (cause : Json.Cause)
  | refused (refusal : Refusal)

namespace Rejection

def code : Rejection → Int
  | unknownMethod _ => -32601
  | _ => -32602

def message : Rejection → String
  | unknownMethod name => name
  | unknownTool => "tool not found"
  | badArguments cause => s!"failed to deserialize parameters: {cause.message}"
  | refused refusal => refusal.message

def toJson (r : Rejection) : Json :=
  .object [("code", .number (.whole r.code)), ("message", .text r.message)]

end Rejection

def instructions : String :=
  "fine-i18n resolves translation calls like t(\"home.title\") in JS/TS code against a project's "
    ++ ".properties/.json dictionary files.\n\n"
    ++ "Available tools:\n"
    ++ "1. get_config - Get project configuration\n"
    ++ "2. reload_dictionary - Rebuild the dictionary from all dictionary files\n"
    ++ "3. reload_file - Merge one saved dictionary file\n"
    ++ "4. configure - Change suffixes, function name or selectors\n"
    ++ "5. resolve_hints - Get the translated text for each call in a document\n"
    ++ "6. list_completions - List dictionary keys with their text (paginated)\n\n"
    ++ "Every tool takes projectRootPath. The dictionary is loaded on first use; call reload_file after "
    ++ "saving a dictionary file."

def latestVersion : String := "2025-03-26"

/-- The protocol's version for a client: its own if that is older. -/
def version (requested : String) : String := if requested < latestVersion then requested else latestVersion

def welcome (requested : String) : Json :=
  .object [("protocolVersion", .text (version requested)),
    ("capabilities", .object [("tools", .object [])]),
    ("serverInfo", .object [("name", .text "rmcp"), ("version", .text "0.13.0")]),
    ("instructions", .text instructions)]

def content (reply : Reply) : Json :=
  .object [("content", .list [.object [("type", .text "text"), ("text", .text (reply.toJson.pretty 0))]]),
    ("isError", .bool false)]

def call (server : Server) (tree : FileTree) (name : String) (arguments : Json) :
    Except Rejection Reply × Server :=
  match Tool.ofName? name with
  | none => (.error .unknownTool, server)
  | some tool =>
    match tool.call arguments with
    | .error cause => (.error (.badArguments cause), server)
    | .ok call =>
      let (reply, server) := server.perform tree call.root call.request
      (reply.mapError .refused, server)

def called? (params : Json) : Option (String × Json) :=
  match params.member? "name", params.member? "arguments" with
  | some (.text name), none | some (.text name), some .null => some (name, .object [])
  | some (.text name), some (.object ms) => some (name, .object ms)
  | _, _ => none

def respond (server : Server) (tree : FileTree) (method : String) (params : Json) :
    Except Rejection Json × Server :=
  match method, params.member? "protocolVersion", called? params with
  | "initialize", some (.text requested), _ => (.ok (welcome requested), server)
  | "ping", _, _ => (.ok (.object []), server)
  | "tools/list", _, _ => (.ok (.object [("tools", .list (Tool.all.map (·.toJson)))]), server)
  | "resources/list", _, _ => (.ok (.object [("resources", .list [])]), server)
  | "resources/templates/list", _, _ => (.ok (.object [("resourceTemplates", .list [])]), server)
  | "prompts/list", _, _ => (.ok (.object [("prompts", .list [])]), server)
  | "tools/call", _, some (name, arguments) =>
    let (reply, server) := server.call tree name arguments
    (reply.map content, server)
  | method, _, _ => (.error (.unknownMethod method), server)

def envelope (id : Json) : Except Rejection Json → Json
  | .ok result => .object [("jsonrpc", .text "2.0"), ("id", id), ("result", result)]
  | .error r => .object [("jsonrpc", .text "2.0"), ("id", id), ("error", r.toJson)]

def answer (server : Server) (tree : FileTree) (message : Json) : Option Json × Server :=
  match message.member? "id", message.member? "method" with
  | some id, some (.text method) =>
    let (result, server) := server.respond tree method ((message.member? "params").getD .null)
    (some (envelope id result), server)
  | _, _ => (none, server)

def answerLine (server : Server) (tree : FileTree) (line : String) : Option String × Server :=
  match Json.read line with
  | .ok message =>
    let (reply, server) := server.answer tree message
    (reply.map (·.compact), server)
  | .error _ => (none, server)

end Gloss.Server
