import SourceModel.Fragment
import SourceModel.Model.Node

namespace SourceModel

inductive RenderError
  | noRenderer (kind : NodeKind) (capabilities : List NodeKind)
  | malformedModel (node : NodeKind) (reason : String)
  | unexpectedNode (expected : String) (found : NodeKind)
  | rendererFailed (kind : NodeKind) (message : String)
  /-- Renderers asked for one another without an end. -/
  | endlessNesting (kind : NodeKind)
  deriving DecidableEq, Repr

namespace RenderError

def message : RenderError → String
  | noRenderer kind capabilities =>
    "no renderer registered for `" ++ kind.name ++ "` (capabilities: [" ++
      Text.joinWith ", " (capabilities.map NodeKind.name) ++ "])"
  | malformedModel node reason => "malformed " ++ node.name ++ ": " ++ reason
  | unexpectedNode expected found => "expected " ++ expected ++ " node, found `" ++ found.name ++ "`"
  | rendererFailed kind message => "renderer for `" ++ kind.name ++ "` failed: " ++ message
  | endlessNesting kind => "rendering `" ++ kind.name ++ "` does not end"

def missing (owner : NodeKind) (role : String) : RenderError :=
  malformedModel owner (role ++ " is missing")

end RenderError

/-- The nodes that a rendering visits, in order, and what comes of it. After an error nothing more
is visited, and what was visited before is kept. -/
structure Rendering (α : Type) where
  visited : List Node
  outcome : Except RenderError α

namespace Rendering

variable {α β : Type}

protected def pure (a : α) : Rendering α := ⟨[], .ok a⟩

def fail (e : RenderError) : Rendering α := ⟨[], .error e⟩

def visit (node : Node) : Rendering Unit := ⟨[node], .ok ()⟩

protected def bind (first : Rendering α) (next : α → Rendering β) : Rendering β :=
  match first.outcome with
  | .error e => ⟨first.visited, .error e⟩
  | .ok a => ⟨first.visited ++ (next a).visited, (next a).outcome⟩

instance : Monad Rendering where
  pure := Rendering.pure
  bind := Rendering.bind

@[ext] theorem ext {x y : Rendering α} (hv : x.visited = y.visited) (ho : x.outcome = y.outcome) :
    x = y := by
  cases x; cases y; simp_all

theorem bind_ok {first : Rendering α} {a : α} (h : first.outcome = .ok a)
    (next : α → Rendering β) :
    first >>= next = ⟨first.visited ++ (next a).visited, (next a).outcome⟩ := by
  simp [bind, Rendering.bind, h]

theorem bind_error {first : Rendering α} {e : RenderError} (h : first.outcome = .error e)
    (next : α → Rendering β) : first >>= next = ⟨first.visited, .error e⟩ := by
  simp [bind, Rendering.bind, h]

instance : LawfulMonad Rendering := LawfulMonad.mk' Rendering
  (fun x => by
    cases x with
    | mk v o => cases o <;> simp [Functor.map, Rendering.bind, Rendering.pure])
  (fun a next => by
    apply ext <;> simp [bind, pure, Rendering.bind, Rendering.pure])
  (fun x f g => by
    cases x with
    | mk v o =>
      cases o with
      | error e => rfl
      | ok a =>
        cases h : (f a).outcome with
        | error e => simp [bind, Rendering.bind, h]
        | ok b => simp [bind, Rendering.bind, h])

def sequence : List (Rendering α) → Rendering (List α)
  | [] => pure []
  | first :: rest => do
    let a ← first
    let as ← sequence rest
    pure (a :: as)

def joined (joiner : Joiner) (items : List (Rendering Fragment)) : Rendering Fragment := do
  let fragments ← sequence items
  pure (joiner.join fragments)

end Rendering

end SourceModel
