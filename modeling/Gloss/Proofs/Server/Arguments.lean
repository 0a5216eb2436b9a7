import Gloss.Proofs.Server.Projects
import Gloss.Server.Exchange

namespace Gloss

def Argument.toJson : Argument → Json
  | text s => .text s
  | texts ss => .texts ss
  | count n => .ofNat n

namespace Form

def admits : Form → Argument → Bool
  | text, .text _ => true
  | texts, .texts _ => true
  | count, .count n => n < countBound
  | _, _ => false

theorem mapM_readText (ss : List String) : (ss.map Json.text).mapM readText = .ok ss := by
  induction ss with
  | nil => rfl
  | cons s ss ih =>
    rw [List.map_cons, List.mapM_cons, ih]
    rfl

theorem read_toJson {form : Form} {argument : Argument} (h : form.admits argument = true) :
    form.read argument.toJson = .ok argument := by
  cases form with
  | text =>
    cases argument with
    | text s => rfl
    | texts ss => cases h
    | count n => cases h
  | texts =>
    cases argument with
    | text s => cases h
    | texts ss =>
      change ((ss.map Json.text).mapM readText).map Argument.texts = .ok (.texts ss)
      rw [mapM_readText]
      rfl
    | count n => cases h
  | count =>
    cases argument with
    | text s => cases h
    | texts ss => cases h
    | count n =>
      have hn : n < countBound := of_decide_eq_true h
      change (readCount (.number (.whole (.ofNat n)))).map Argument.count = .ok (.count n)
      rw [readCount, if_pos hn]
      rfl

end Form

namespace Parameter

def fits (ps : List Parameter) (name : String) (argument : Argument) : Bool :=
  (ps.find? (·.name == name)).any (·.form.admits argument)

theorem read_toJson (p : Parameter) {argument : Argument} (h : p.form.admits argument = true) :
    p.read argument.toJson = .ok (some argument) := by
  unfold read
  split
  · next hnull => cases argument <;> cases hnull
  · rw [Form.read_toJson h]
    rfl

end Parameter

namespace Arguments

def toJson (arguments : Arguments) : Json := .object (arguments.map fun (name, argument) => (name, argument.toJson))

structure Fit (ps : List Parameter) (arguments : Arguments) : Prop where
  known : ∀ e ∈ arguments, Parameter.fits ps e.1 e.2 = true
  complete : Parameter.missing? ps arguments = none

theorem readMembers_toJson {ps : List Parameter} {arguments : Arguments}
    (h : ∀ e ∈ arguments, Parameter.fits ps e.1 e.2 = true) :
    Parameter.readMembers ps (arguments.map fun (name, argument) => (name, argument.toJson)) = .ok arguments := by
  induction arguments with
  | nil => rfl
  | cons e arguments ih =>
    obtain ⟨name, argument⟩ := e
    obtain ⟨he, hrest⟩ := List.forall_mem_cons.mp h
    obtain ⟨p, hp, hadmits⟩ := (Option.any_eq_true _ _).mp he
    obtain rfl : p.name = name := by simpa using List.find?_some hp
    rw [List.map_cons, Parameter.readMembers, hp]
    dsimp only
    rw [p.read_toJson hadmits, ih hrest]
    rfl

theorem Fit.readAll {ps : List Parameter} {arguments : Arguments} (h : arguments.Fit ps) (title : String) :
    Parameter.readAll title ps arguments.toJson = .ok arguments := by
  rw [toJson, Parameter.readAll, readMembers_toJson h.known]
  dsimp only [bind, Except.bind]
  rw [h.complete]
  rfl

end Arguments

namespace Tool

theorem ofName?_name (tool : Tool) : ofName? tool.name = some tool := by
  cases tool <;> decide

theorem call_toJson {tool : Tool} {arguments : Arguments} (h : arguments.Fit tool.parameters) :
    tool.call arguments.toJson =
      .ok ⟨.ofText ((arguments.text? "projectRootPath").getD ""), tool.request arguments⟩ := by
  rw [call, h.readAll]
  rfl

end Tool

namespace Server

section

variable {server : Server} (tree : FileTree) {tool : Tool} {arguments : Arguments} {root : String}
  (h : arguments.Fit tool.parameters) (hroot : arguments.text? "projectRootPath" = some root)

include h hroot

theorem call_toJson : server.call tree tool.name arguments.toJson =
    ((server.perform tree (.ofText root) (tool.request arguments)).1.mapError .refused,
      (server.perform tree (.ofText root) (tool.request arguments)).2) := by
  rw [call, tool.ofName?_name]
  dsimp only
  rw [Tool.call_toJson h, hroot]
  rfl

theorem call_known {engine : Engine} (hengine : server.engine? (.ofText root) = some engine) :
    server.call tree tool.name arguments.toJson =
      ((engine.perform tree (tool.request arguments)).1.mapError .refused,
        server.keep (.ofText root) (engine.perform tree (tool.request arguments)).2) := by
  rw [call_toJson tree h hroot, perform_known hengine]

end

end Server

end Gloss
