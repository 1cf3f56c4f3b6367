import SourceModel.Collection.OrderedMap
import SourceModel.Generator
import SourceModel.Text.Quoted

/-!
# Registries

Renderers ask for one another, so a registry counts how deep they nest: a node and its children
need at most its height, and a renderer that asks for nodes of its own declares how deep they are.
A run that goes deeper goes round in a circle and ends in `RenderError.endlessNesting`.
-/

namespace SourceModel

structure Registry where
  dialect : String
  renderers : OrderedMap NodeKind Renderer := ∅

namespace Registry

def empty (dialect : String) : Registry := ⟨dialect, ∅⟩

def register (r : Registry) (kind : NodeKind) (renderer : Renderer) : Registry :=
  { r with renderers := r.renderers.insert kind renderer }

def exchange (r : Registry) (kind : NodeKind) (renderer : Renderer) :
    Option Renderer × Registry :=
  (r.renderers.get? kind, r.register kind renderer)

def registerFunction (r : Registry) (kind : NodeKind)
    (render : Generator → Node → Rendering Fragment) : Option Renderer × Registry :=
  r.exchange kind { render }

def installView {α : Type} (r : Registry) (kind : NodeKind) (view : View α) :
    Option Renderer × Registry :=
  r.exchange kind view.renderer

def registerAll (r : Registry) (entries : List (NodeKind × Renderer)) : Registry :=
  { r with renderers := r.renderers.insertAll entries }

def extend (r other : Registry) : Registry := r.registerAll other.renderers.entries

def contains (r : Registry) (kind : NodeKind) : Bool := r.renderers.contains kind

def kinds (r : Registry) : List NodeKind := r.renderers.keys

def size (r : Registry) : Nat := r.renderers.size

def firstOf? (r : Registry) : List NodeKind → Option Renderer
  | [] => none
  | kind :: rest => match r.renderers.get? kind with
    | some renderer => some renderer
    | none => r.firstOf? rest

def lookup (r : Registry) (node : Node) : Except RenderError Renderer :=
  match r.firstOf? node.lookupKinds with
  | some renderer => .ok renderer
  | none => .error (.noRenderer node.kind node.capabilities)

def description (r : Registry) : String :=
  "Registry \x7b dialect: " ++ Text.quoted r.dialect ++ ", kinds: [" ++
    Text.joinWith ", " (r.kinds.map fun kind => "NodeKind(" ++ Text.quoted kind.name ++ ")") ++
    "] \x7d"

def dispatch (r : Registry) (formatting : Formatting) :
    Nat → ImportScope → Node → Rendering Fragment
  | 0, _, node => .fail (.endlessNesting node.kind)
  | depth + 1, scope, node => do
    Rendering.visit node
    match r.lookup node with
    | .error e => .fail e
    | .ok renderer => renderer.render ⟨formatting, scope, r.dispatch formatting depth⟩ node

def reach (r : Registry) : Nat :=
  r.renderers.entries.foldl (fun total entry => total + entry.2.reach) 0

def generator (r : Registry) (formatting : Formatting) (scope : ImportScope) : Generator where
  formatting := formatting
  scope := scope
  dispatch scope node := r.dispatch formatting (node.height + r.reach) scope node

def calls (r : Registry) (visited : List Node) : List (String × NodeKind) :=
  visited.filterMap fun node =>
    match r.lookup node with
    | .ok renderer => renderer.label.map fun label => (label, node.kind)
    | .error _ => none

end Registry

end SourceModel
