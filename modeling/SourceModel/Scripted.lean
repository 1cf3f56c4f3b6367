import SourceModel.Dialect

namespace SourceModel

inductive Script
  | constant (text : String)
  | nothing
  | failure (message : String)
  | malformed (reason : String)
  | ownText
  | children (joiner : Joiner) (scope : Option ImportScope)
  | redirect (node : Node)
  | builtIn (kind : NodeKind)
  | customView

namespace Script

def textOf? : Node → Option String
  | .statement (.simple text) => some text
  | .custom _ _ text _ => some text
  | _ => none

def childrenOf? : Node → Option (List Node)
  | .statement (.simple _) => some []
  | .statement (.composite parts) => some (parts.map .statement)
  | .file file => some (file.declarations.map .ofDeclaration)
  | .classDecl decl => some (decl.fields.map .field)
  | .custom _ _ _ nodes => some nodes
  | _ => none

def customNode : View String where
  model := "CNode"
  ofNode?
    | .custom _ _ text _ => some text
    | _ => none
  render _ text := pure (.present ("@" ++ text))

def render : Script → Generator → Node → Rendering Fragment
  | constant text, _, _ => pure (.present text)
  | nothing, _, _ => pure .absent
  | failure message, _, node => .fail (.rendererFailed node.kind message)
  | malformed reason, _, node => .fail (.malformedModel node.kind reason)
  | ownText, _, node =>
    match textOf? node with
    | some text => pure (.present text)
    | none => .fail (.rendererFailed node.kind "no text")
  | children joiner scope, g, node =>
    match childrenOf? node with
    | some nodes => (g.withScope (scope.getD g.scope)).joinEachWith nodes joiner
    | none => .fail (.rendererFailed node.kind "no children")
  | redirect target, g, _ => g.on target
  | builtIn kind, g, node =>
    match (Dialect.java.registry).renderers.get? kind with
    | some renderer => renderer.render g node
    | none => .fail (.noRenderer kind [])
  | customView, g, node => customNode.renderer.render g node

def reach : Script → Nat
  | redirect target => target.height
  | _ => 0

def isWatched : Script → Bool
  | builtIn _ => false
  | customView => false
  | _ => true

def renderer (script : Script) (label : String) : Renderer where
  render := script.render
  reach := script.reach
  label := if script.isWatched then some label else none

end Script

end SourceModel
