import SourceModel.Proofs.NodeChildren
import SourceModel.Proofs.RegistryHistory

/-!
# Related renderings

A congruence relates renderings and is kept by all steps of which views are made. Each built-in
view carries it from the children of a node to the node (`java_asksForChildren`). Two registries
that keep it at a single node therefore keep it in whole runs, however deep either of them may nest
(`Rendering.Congruence.Ascends.on`).
-/

namespace SourceModel

namespace Rendering

/-- A relation between renderings that begin, fail and go on in the same way. -/
structure Congruence where
  Related : ∀ {α : Type}, Rendering α → Rendering α → Prop
  ofPure : ∀ {α : Type} (a : α), Related (pure a) (pure a)
  ofFail : ∀ {α : Type} (e : RenderError), Related (fail e : Rendering α) (fail e)
  ofBind : ∀ {α β : Type} {x x' : Rendering α} {next next' : α → Rendering β},
    Related x x' → (∀ a, Related (next a) (next' a)) → Related (x >>= next) (x' >>= next')

namespace Congruence

variable {C : Congruence}

theorem ofSequence {ι α : Type} {render render' : ι → Rendering α} {items : List ι}
    (each : ∀ item ∈ items, C.Related (render item) (render' item)) :
    C.Related (sequence (items.map render)) (sequence (items.map render')) := by
  induction items with
  | nil => exact C.ofPure []
  | cons item rest ih =>
    have others := ih fun item mem => each item (List.mem_cons_of_mem _ mem)
    refine C.ofBind (each item List.mem_cons_self) fun a => ?_
    exact C.ofBind others fun as => C.ofPure (a :: as)

def RelatedOn (C : Congruence) (dispatch dispatch' : ImportScope → Node → Rendering Fragment)
    (nodes : List Node) : Prop :=
  ∀ node ∈ nodes, ∀ scope, C.Related (dispatch scope node) (dispatch' scope node)

theorem relatedOn_append {dispatch dispatch' : ImportScope → Node → Rendering Fragment}
    {nodes more : List Node} :
    C.RelatedOn dispatch dispatch' (nodes ++ more) ↔
      C.RelatedOn dispatch dispatch' nodes ∧ C.RelatedOn dispatch dispatch' more :=
  List.forall_mem_append

end Congruence

end Rendering

open Rendering (Congruence)

namespace Generator

def withDispatch (g : Generator) (dispatch : ImportScope → Node → Rendering Fragment) :
    Generator :=
  { g with dispatch }

variable {C : Congruence} {g : Generator} {dispatch : ImportScope → Node → Rendering Fragment}

theorem related_sequence {nodes : List Node} (related : C.RelatedOn g.dispatch dispatch nodes) :
    C.Related (Rendering.sequence (g.onEach nodes))
      (Rendering.sequence ((g.withDispatch dispatch).onEach nodes)) :=
  Congruence.ofSequence fun node mem => related node mem g.scope

theorem related_joinEachWith {nodes : List Node} (related : C.RelatedOn g.dispatch dispatch nodes)
    (joiner : Joiner) :
    C.Related (g.joinEachWith nodes joiner) ((g.withDispatch dispatch).joinEachWith nodes joiner) :=
  C.ofBind (related_sequence related) fun _ => C.ofPure _

theorem related_onOptional {node : Option Node}
    (related : C.RelatedOn g.dispatch dispatch node.toList) :
    C.Related (g.onOptional node) ((g.withDispatch dispatch).onOptional node) := by
  cases node with
  | none => exact C.ofPure _
  | some node => exact related node (List.mem_singleton_self node) g.scope

theorem related_onRequired {node : Option Node}
    (related : C.RelatedOn g.dispatch dispatch node.toList) (owner : NodeKind) (role : String) :
    C.Related (g.onRequired node owner role)
      ((g.withDispatch dispatch).onRequired node owner role) := by
  cases node with
  | none => exact C.ofFail _
  | some node => exact related node (List.mem_singleton_self node) g.scope

theorem related_documented {javadoc : Option Javadoc}
    (related : C.RelatedOn g.dispatch dispatch (javadoc.map .javadoc).toList) (text : String) :
    C.Related (View.documented g javadoc text)
      (View.documented (g.withDispatch dispatch) javadoc text) :=
  C.ofBind (related_onOptional related) fun _ => C.ofPure _

end Generator

/-- What the renderer does follows from what the generator does to the children of the node. -/
def Renderer.AsksForChildren (renderer : Renderer) : Prop :=
  ∀ (C : Congruence) (g : Generator) (dispatch : ImportScope → Node → Rendering Fragment)
    (node : Node), C.RelatedOn g.dispatch dispatch node.children →
      C.Related (renderer.render g node) (renderer.render (g.withDispatch dispatch) node)

namespace View

variable {C : Congruence} {g : Generator} {dispatch : ImportScope → Node → Rendering Fragment}

theorem file_asksForChildren : file.renderer.AsksForChildren := by
  intro C g dispatch node related
  cases node with
  | file model =>
    obtain ⟨imports, declarations⟩ := Congruence.relatedOn_append.mp related
    refine C.ofBind (Generator.related_sequence imports) fun lines => ?_
    have inScope := Generator.related_joinEachWith (g := g.withScope (.ofFile model)) declarations
    exact C.ofBind (inScope _) fun text => C.ofPure _
  | _ => exact C.ofFail _

theorem importLine_asksForChildren : importLine.renderer.AsksForChildren := by
  intro C g dispatch node related
  cases node with
  | importLine model => exact C.ofPure _
  | _ => exact C.ofFail _

theorem type_asksForChildren : type.renderer.AsksForChildren := by
  intro C g dispatch node related
  cases node with
  | type model =>
    change C.Related (type.render g model) (type.render _ model)
    simp only [type]
    split
    · exact C.ofPure _
    · exact C.ofBind (Generator.related_joinEachWith related _) fun arguments => C.ofPure _
  | _ => exact C.ofFail _

theorem generic_asksForChildren : generic.renderer.AsksForChildren := by
  intro C g dispatch node related
  cases node with
  | generic model =>
    refine C.ofBind (Generator.related_joinEachWith related _) fun bounds => ?_
    cases model.lower <;> exact C.ofPure _
  | _ => exact C.ofFail _

theorem javadoc_asksForChildren : javadoc.renderer.AsksForChildren := by
  intro C g dispatch node related
  cases node with
  | javadoc model =>
    refine C.ofBind (Generator.related_sequence related) fun tags => ?_
    simp only
    split <;> exact C.ofPure _
  | _ => exact C.ofFail _

theorem javadocTag_asksForChildren : javadocTag.renderer.AsksForChildren := by
  intro C g dispatch node related
  cases node with
  | javadocTag model => exact C.ofPure _
  | _ => exact C.ofFail _

theorem statement_asksForChildren : statement.renderer.AsksForChildren := by
  intro C g dispatch node related
  cases node with
  | statement model =>
    cases model with
    | simple text => exact C.ofPure _
    | composite parts => exact Generator.related_joinEachWith related _
  | _ => exact C.ofFail _

theorem field_asksForChildren : field.renderer.AsksForChildren := by
  intro C g dispatch node related
  cases node with
  | field model =>
    obtain ⟨type, comment⟩ := Congruence.relatedOn_append.mp related
    refine C.ofBind (Generator.related_onRequired type _ _) fun type => ?_
    exact Generator.related_documented comment _
  | _ => exact C.ofFail _

theorem parameter_asksForChildren : parameter.renderer.AsksForChildren := by
  intro C g dispatch node related
  cases node with
  | parameter model =>
    exact C.ofBind (Generator.related_onRequired related _ _) fun type => C.ofPure _
  | _ => exact C.ofFail _

theorem method_asksForChildren : method.renderer.AsksForChildren := by
  intro C g dispatch node related
  cases node with
  | method model =>
    simp only [Node.children, Congruence.relatedOn_append, and_assoc] at related
    obtain ⟨parameters, generics, returns, throws, body, comment⟩ := related
    refine C.ofBind (Generator.related_joinEachWith parameters _) fun parameters => ?_
    refine C.ofBind (Generator.related_joinEachWith generics _) fun generics => ?_
    refine C.ofBind (returns _ (List.mem_singleton_self _) g.scope) fun returns => ?_
    refine C.ofBind (Generator.related_joinEachWith throws _) fun throws => ?_
    cases written : model.body with
    | none => exact Generator.related_documented comment _
    | some statements =>
      rw [written] at body
      refine C.ofBind (Generator.related_joinEachWith body _) fun body => ?_
      exact Generator.related_documented comment _
  | _ => exact C.ofFail _

theorem related_parts {parts : DeclarationParts}
    (generics : C.RelatedOn g.dispatch dispatch (parts.generics.map .generic))
    (fields : C.RelatedOn g.dispatch dispatch (parts.fields.map .field))
    (methods : C.RelatedOn g.dispatch dispatch (parts.methods.map .method))
    (comment : C.RelatedOn g.dispatch dispatch (parts.javadoc.map .javadoc).toList)
    (clauses : List Fragment) :
    C.Related (parts.render g clauses) (parts.render (g.withDispatch dispatch) clauses) := by
  refine C.ofBind (Generator.related_joinEachWith generics _) fun generics => ?_
  refine C.ofBind (Generator.related_joinEachWith fields _) fun fields => ?_
  refine C.ofBind (Generator.related_joinEachWith methods _) fun methods => ?_
  exact Generator.related_documented comment _

theorem classDecl_asksForChildren : classDecl.renderer.AsksForChildren := by
  intro C g dispatch node related
  cases node with
  | classDecl model =>
    simp only [Node.children, Congruence.relatedOn_append, and_assoc] at related
    obtain ⟨supertype, interfaces, generics, fields, methods, comment⟩ := related
    refine C.ofBind (Generator.related_onOptional supertype) fun supertype => ?_
    refine C.ofBind (Generator.related_joinEachWith interfaces _) fun interfaces => ?_
    exact related_parts generics fields methods comment _
  | _ => exact C.ofFail _

theorem interfaceDecl_asksForChildren : interfaceDecl.renderer.AsksForChildren := by
  intro C g dispatch node related
  cases node with
  | interfaceDecl model =>
    simp only [Node.children, Congruence.relatedOn_append, and_assoc] at related
    obtain ⟨supertypes, generics, fields, methods, comment⟩ := related
    refine C.ofBind (Generator.related_joinEachWith supertypes _) fun supertypes => ?_
    exact related_parts generics fields methods comment _
  | _ => exact C.ofFail _

end View

namespace Registry

def AsksForChildren (r : Registry) : Prop :=
  ∀ entry ∈ r.renderers.entries, entry.2.AsksForChildren

def answer (r : Registry) (g : Generator) (node : Node) : Rendering Fragment :=
  match r.lookup node with
  | .error e => .fail e
  | .ok renderer => renderer.render g node

theorem answer_of_lookup_eq {r r' : Registry} {node : Node} (same : r'.lookup node = r.lookup node)
    (g : Generator) : r'.answer g node = r.answer g node := by
  rw [answer, answer, same]

theorem dispatch_succ (r : Registry) (formatting : Formatting) (depth : Nat) (scope : ImportScope)
    (node : Node) :
    r.dispatch formatting (depth + 1) scope node =
      Rendering.visit node >>= fun _ => r.answer (r.within formatting depth scope) node :=
  rfl

theorem AsksForChildren.answer {r : Registry} (asks : r.AsksForChildren) {C : Congruence}
    {g : Generator} {dispatch : ImportScope → Node → Rendering Fragment} {node : Node}
    (related : C.RelatedOn g.dispatch dispatch node.children) :
    C.Related (r.answer g node) (r.answer (g.withDispatch dispatch) node) := by
  simp only [Registry.answer]
  split
  · exact C.ofFail _
  · rename_i renderer found
    obtain ⟨-, kind, -, -, -, own⟩ := firstOf?_eq_some_iff.mp (lookup_eq_ok_iff.mp found)
    exact asks _ (OrderedMap.mem_of_get? own) C g dispatch node related

end Registry

theorem java_asksForChildren : Dialect.java.registry.AsksForChildren := by
  change ∀ entry ∈ Dialect.java.renderers, entry.2.AsksForChildren
  simp only [Dialect.java, List.forall_mem_cons]
  exact ⟨View.file_asksForChildren, View.importLine_asksForChildren,
    View.classDecl_asksForChildren, View.interfaceDecl_asksForChildren,
    View.method_asksForChildren, View.field_asksForChildren, View.parameter_asksForChildren,
    View.type_asksForChildren, View.generic_asksForChildren, View.javadoc_asksForChildren,
    View.javadocTag_asksForChildren, View.statement_asksForChildren, List.forall_mem_nil _⟩

namespace Rendering.Congruence

variable {C : Congruence} {r r' : Registry}

/-- The relation goes from the children of a part of the model to the part itself, each rendered by
the registry of its side. -/
def Ascends (C : Congruence) (r r' : Registry) : Prop :=
  ∀ (g : Generator) (dispatch : ImportScope → Node → Rendering Fragment) (node : Node),
    node.IsBuiltIn → C.RelatedOn g.dispatch dispatch node.children →
      C.Related (visit node >>= fun _ => r.answer g node)
        (visit node >>= fun _ => r'.answer (g.withDispatch dispatch) node)

theorem Ascends.dispatch (ascends : C.Ascends r r') (formatting : Formatting) {node : Node}
    (builtIn : node.IsBuiltIn) {depth depth' : Nat} (enough : node.height ≤ depth)
    (enough' : node.height ≤ depth') (scope : ImportScope) :
    C.Related (r.dispatch formatting depth scope node)
      (r'.dispatch formatting depth' scope node) := by
  -- The two depths need not be the same, as long as neither stops above the node's own height.
  induction depth generalizing depth' node scope with
  | zero => exact absurd node.height_pos (Nat.not_lt.mpr enough)
  | succ depth ih =>
    cases depth' with
    | zero => exact absurd node.height_pos (Nat.not_lt.mpr enough')
    | succ depth' =>
      rw [Registry.dispatch_succ, Registry.dispatch_succ]
      apply ascends (r.within formatting depth scope) (r'.dispatch formatting depth') node builtIn
      intro child mem scope
      exact ih (Node.children_isBuiltIn builtIn child mem)
        (Node.children_height_le enough child mem) (Node.children_height_le enough' child mem) scope

theorem Ascends.on (ascends : C.Ascends r r') (formatting : Formatting) (scope : ImportScope)
    {node : Node} (builtIn : node.IsBuiltIn) :
    C.Related ((r.generator formatting scope).on node)
      ((r'.generator formatting scope).on node) :=
  ascends.dispatch formatting builtIn (Nat.le_add_right _ _) (Nat.le_add_right _ _) scope

end Rendering.Congruence

end SourceModel
