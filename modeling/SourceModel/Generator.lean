import SourceModel.Formatting
import SourceModel.ImportScope
import SourceModel.Rendering

namespace SourceModel

structure Generator where
  formatting : Formatting
  scope : ImportScope
  dispatch : ImportScope → Node → Rendering Fragment

namespace Generator

def withScope (g : Generator) (scope : ImportScope) : Generator := { g with scope }

def on (g : Generator) (node : Node) : Rendering Fragment := g.dispatch g.scope node

def onEach (g : Generator) (nodes : List Node) : List (Rendering Fragment) := nodes.map g.on

def joinEachWith (g : Generator) (nodes : List Node) (joiner : Joiner) : Rendering Fragment :=
  Rendering.joined joiner (g.onEach nodes)

def joinEach (g : Generator) (nodes : List Node) (separator : String) : Rendering Fragment :=
  g.joinEachWith nodes ⟨separator, "", ""⟩

def onOptional (g : Generator) : Option Node → Rendering Fragment
  | none => pure .absent
  | some node => g.on node

def onRequired (g : Generator) (node : Option Node) (owner : NodeKind) (role : String) :
    Rendering Fragment :=
  match node with
  | none => .fail (.missing owner role)
  | some node => g.on node

end Generator

structure Renderer where
  render : Generator → Node → Rendering Fragment
  /-- How deep the nodes nest that the renderer asks for on its own account, besides the children
  of the node that it was handed. -/
  reach : Nat := 0
  label : Option String := none

structure View (α : Type) where
  model : String
  ofNode? : Node → Option α
  render : Generator → α → Rendering Fragment

def View.renderer {α : Type} (view : View α) : Renderer where
  render g node :=
    match view.ofNode? node with
    | some model => view.render g model
    | none => .fail (.unexpectedNode view.model node.kind)

end SourceModel
