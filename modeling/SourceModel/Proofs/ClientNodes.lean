import SourceModel.Proofs.RelatedRenderings

namespace SourceModel

/-- Every node that is no part of the model is refused, and a model of this type is asked for. -/
def Renderer.Expects (renderer : Renderer) (model : String) : Prop :=
  ∀ (g : Generator) (node : Node), ¬ node.IsBuiltIn →
    renderer.render g node = .fail (.unexpectedNode model node.kind)

def View.ReadsParts {α : Type} (view : View α) : Prop :=
  ∀ node : Node, ¬ node.IsBuiltIn → view.ofNode? node = none

theorem View.expects {α : Type} {view : View α} (readsParts : view.ReadsParts) :
    view.renderer.Expects view.model := by
  intro g node client
  simp only [View.renderer, readsParts node client]

namespace Registry

variable {r : Registry} {formatting : Formatting} {scope : ImportScope} {node : Node}

theorem on_eq_answer (r : Registry) (formatting : Formatting) (scope : ImportScope)
    (node : Node) :
    ∃ g : Generator, (r.generator formatting scope).on node =
      Rendering.visit node >>= fun _ => r.answer g node := by
  have positive : 0 < node.height + r.reach := Nat.add_pos_left node.height_pos r.reach
  obtain ⟨depth, deep⟩ := Nat.exists_eq_add_of_lt positive
  -- No node has height zero, so there is depth enough for the first step.
  refine ⟨r.within formatting (0 + depth) scope, ?_⟩
  rw [← dispatch_succ, ← deep]
  rfl

theorem on_of_kinds_notMem (none : ∀ kind ∈ node.lookupKinds, kind ∉ r.kinds) :
    (r.generator formatting scope).on node =
      ⟨[node], .error (.noRenderer node.kind node.capabilities)⟩ := by
  obtain ⟨g, run⟩ := r.on_eq_answer formatting scope node
  have unfound : r.lookup node = .error (.noRenderer node.kind node.capabilities) :=
    lookup_eq_error_iff.mpr ⟨firstOf?_eq_none_iff.mpr none, rfl⟩
  rw [run, answer, unfound]
  rfl

theorem on_of_expects {renderer : Renderer} {model : String}
    (first : r.firstOf? node.lookupKinds = some renderer) (expects : renderer.Expects model)
    (client : ¬ node.IsBuiltIn) :
    (r.generator formatting scope).on node =
      ⟨[node], .error (.unexpectedNode model node.kind)⟩ := by
  obtain ⟨g, run⟩ := r.on_eq_answer formatting scope node
  rw [run, answer, lookup_eq_ok_iff.mpr first]
  simp only [expects g node client]
  rfl

theorem mem_kinds_iff {kind : NodeKind} :
    kind ∈ r.kinds ↔ ∃ renderer, r.renderers.get? kind = some renderer := by
  rw [← Option.ne_none_iff_exists', Ne, OrderedMap.get?_eq_none_iff]
  exact not_not.symm

theorem notMem_or_first (r : Registry) (kinds : List NodeKind) :
    (∀ kind ∈ kinds, kind ∉ r.kinds) ∨
      ∃ before kind after, kinds = before ++ kind :: after ∧
        (∀ earlier ∈ before, earlier ∉ r.kinds) ∧ kind ∈ r.kinds := by
  cases first : r.firstOf? kinds with
  | none => exact .inl (firstOf?_eq_none_iff.mp first)
  | some renderer =>
    obtain ⟨before, kind, after, split, others, own⟩ := firstOf?_eq_some_iff.mp first
    exact .inr ⟨before, kind, after, split, others, mem_kinds_iff.mpr ⟨renderer, own⟩⟩

end Registry

def viewedModels : List (NodeKind × String) :=
  [(.file, "File"), (.importLine, "Import"), (.classDecl, "Class"), (.interfaceDecl, "Interface"),
   (.method, "Method"), (.field, "Field"), (.parameter, "Parameter"), (.type, "Type"),
   (.generic, "Generic"), (.javadoc, "Javadoc"), (.javadocTag, "JavadocTag"),
   (.statement, "Statement")]

theorem java_kinds : Dialect.java.registry.kinds = viewedModels.map Prod.fst := rfl

/-- The renderer is the view of parts of the model that is listed for the kind. -/
def IsListedView (kind : NodeKind) (renderer : Renderer) : Prop :=
  ∃ (α : Type) (view : View α),
    renderer = view.renderer ∧ (kind, view.model) ∈ viewedModels ∧ view.ReadsParts

theorem View.isListedView {α : Type} {view : View α} {kind : NodeKind}
    (listed : (kind, view.model) ∈ viewedModels)
    (custom : ∀ kind capabilities text children,
      view.ofNode? (.custom kind capabilities text children) = none)
    (bare : ∀ kind, view.ofNode? (.bare kind) = none) :
    IsListedView kind view.renderer := by
  refine ⟨α, view, rfl, listed, fun node client => ?_⟩
  cases node with
  | custom kind capabilities text children => exact custom kind capabilities text children
  | bare kind => exact bare kind
  | _ => exact absurd trivial client

theorem java_renderers_listed :
    ∀ entry ∈ Dialect.java.renderers, IsListedView entry.1 entry.2 := by
  simp only [Dialect.java, List.forall_mem_cons]
  refine ⟨?_, ?_, ?_, ?_, ?_, ?_, ?_, ?_, ?_, ?_, ?_, ?_, List.forall_mem_nil _⟩
  all_goals exact View.isListedView (by decide) (fun _ _ _ _ => rfl) fun _ => rfl

theorem java_view_listed {kind : NodeKind} {renderer : Renderer}
    (own : Dialect.java.registry.renderers.get? kind = some renderer) :
    IsListedView kind renderer :=
  java_renderers_listed _ (OrderedMap.mem_of_get? own)

theorem java_on_of_first {node : Node} (client : ¬ node.IsBuiltIn) (formatting : Formatting)
    (scope : ImportScope) {before after : List NodeKind} {kind : NodeKind}
    (split : node.lookupKinds = before ++ kind :: after)
    (others : ∀ earlier ∈ before, earlier ∉ Dialect.java.registry.kinds)
    (mem : kind ∈ Dialect.java.registry.kinds) :
    ∃ (α : Type) (view : View α),
      Dialect.java.registry.renderers.get? kind = some view.renderer ∧
        (kind, view.model) ∈ viewedModels ∧
        (Dialect.java.registry.generator formatting scope).on node =
          ⟨[node], .error (.unexpectedNode view.model node.kind)⟩ := by
  obtain ⟨renderer, own⟩ := Registry.mem_kinds_iff.mp mem
  obtain ⟨α, view, rfl, listed, readsParts⟩ := java_view_listed own
  have first := Registry.firstOf?_eq_some_iff.mpr ⟨before, kind, after, split, others, own⟩
  exact ⟨α, view, own, listed, Registry.on_of_expects first (View.expects readsParts) client⟩

/-- A client's node is refused whatever kinds it goes by, and nothing but the node is visited. If
the dialect has a view for none of its kinds, the error lists them as they are; otherwise the error
names the type of model that the first of these views is for, and the node's own kind. -/
theorem on_clientNode {node : Node} (client : ¬ node.IsBuiltIn) (formatting : Formatting)
    (scope : ImportScope) :
    let java := Dialect.java.registry
    let rendered := (java.generator formatting scope).on node
    let kinds := node.kind :: node.capabilities
    java.kinds = viewedModels.map Prod.fst ∧
    (∃ e, rendered.outcome = .error e) ∧
    ((∀ kind ∈ kinds, kind ∉ java.kinds) →
      rendered = ⟨[node], .error (.noRenderer node.kind node.capabilities)⟩) ∧
    ∀ before kind after, kinds = before ++ kind :: after →
      (∀ earlier ∈ before, earlier ∉ java.kinds) → kind ∈ java.kinds →
        ∃ (α : Type) (view : View α), java.renderers.get? kind = some view.renderer ∧
          (kind, view.model) ∈ viewedModels ∧
          rendered = ⟨[node], .error (.unexpectedNode view.model node.kind)⟩ := by
  intro java rendered kinds
  refine ⟨java_kinds, ?_, Registry.on_of_kinds_notMem, fun before kind after split others mem =>
    java_on_of_first client formatting scope split others mem⟩
  rcases java.notMem_or_first kinds with none | ⟨before, kind, after, split, others, mem⟩
  · have refused : rendered = _ := Registry.on_of_kinds_notMem none
    exact ⟨_, congrArg Rendering.outcome refused⟩
  · obtain ⟨α, view, -, -, refused⟩ := java_on_of_first client formatting scope split others mem
    exact ⟨_, congrArg Rendering.outcome refused⟩

def chartNode : Node :=
  .custom ⟨"acme.chart"⟩ [⟨"acme.drawing"⟩, .declaration, .statement, .type] "bars"
    [.bare ⟨"acme.bar"⟩]

theorem on_clientNode_chartNode :
    let rendered (node : Node) := (Dialect.java.registry.generator .standard .empty).on node
    (¬ chartNode.IsBuiltIn ∧
      rendered chartNode =
        ⟨[chartNode], .error (.unexpectedNode "Statement" ⟨"acme.chart"⟩)⟩) ∧
    ¬ (Node.bare .declaration).IsBuiltIn ∧
      rendered (.bare .declaration) =
        ⟨[.bare .declaration], .error (.noRenderer .declaration [])⟩ := by
  intro rendered
  have chart : ¬ chartNode.IsBuiltIn := id
  have bare : ¬ (Node.bare .declaration).IsBuiltIn := id
  obtain ⟨-, -, -, found⟩ := on_clientNode chart .standard .empty
  obtain ⟨-, -, unfound, -⟩ := on_clientNode bare .standard .empty
  have model : ∀ entry ∈ viewedModels, entry.1 = .statement → entry.2 = "Statement" := by decide
  obtain ⟨α, view, -, listed, refused⟩ :=
    found [⟨"acme.chart"⟩, ⟨"acme.drawing"⟩, .declaration] .statement [.type] rfl
      (of_decide_eq_true rfl) (of_decide_eq_true rfl)
  have named : view.model = "Statement" := model _ listed rfl
  rw [named] at refused
  exact ⟨⟨chart, refused⟩, bare, unfound (of_decide_eq_true rfl)⟩

end SourceModel
