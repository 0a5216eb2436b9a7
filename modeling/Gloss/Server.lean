import Gloss.Server.Request

/-!
A server keeps an engine for each project that a client has named. Roots are compared by their
components, and an engine keeps the spelling of its root that came first.
-/

namespace Gloss

namespace Engine

def opened (tree : FileTree) (root : Path) : Except Error (Summary × Engine) :=
  (ofRoot tree root {}).map (·.reload tree)

/-- Answers a request on an engine. One that was loaded for the request does not reload again. -/
def answer (engine : Engine) (tree : FileTree) (loaded : Option Summary) (request : Request) :
    Except Refusal Reply × Engine :=
  match loaded, request with
  | some summary, .reload => (.ok (.reloaded summary), engine)
  | _, request => engine.perform tree request

end Engine

structure Server where
  engines : List (List Path.Component × Engine) := []

namespace Server

def engine? (server : Server) (root : Path) : Option Engine := server.engines.lookup root.components

def place (key : List Path.Component) (engine : Engine) :
    List (List Path.Component × Engine) → List (List Path.Component × Engine)
  | [] => [(key, engine)]
  | e :: es => if e.1 = key then (key, engine) :: es else e :: place key engine es

def keep (server : Server) (root : Path) (engine : Engine) : Server :=
  ⟨place root.components engine server.engines⟩

def engineFor (server : Server) (tree : FileTree) (root : Path) : Except Engine.Error (Option Summary × Engine) :=
  match server.engine? root with
  | some engine => .ok (none, engine)
  | none => (Engine.opened tree root).map fun (summary, engine) => (some summary, engine)

/-- Answers a request on the project at a root. An engine that cannot be made is not kept, so that
the next request tries again. -/
def perform (server : Server) (tree : FileTree) (root : Path) (request : Request) :
    Except Refusal Reply × Server :=
  match server.engineFor tree root with
  | .error e => (.error (.load e), server)
  | .ok (loaded, engine) =>
    let (reply, engine) := engine.answer tree loaded request
    (reply, server.keep root engine)

end Server

end Gloss
