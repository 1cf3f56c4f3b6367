import SourceModel.Proofs.Overrides

namespace SourceModel

open Rendering (Congruence)

def Renderer.AlwaysFails (renderer : Renderer) (e : RenderError) : Prop :=
  ∀ g node, (renderer.render g node).outcome = .error e

namespace Rendering.Congruence

/-- The second rendering ends in the failure if the first one meets such a node, and otherwise as
the first one does. -/
def failing (meets : Node → Prop) (e : RenderError) : Congruence where
  Related x x' :=
    ((∃ node ∈ x.visited, meets node) → x'.outcome = .error e) ∧
      ((∀ node ∈ x.visited, ¬ meets node) → x'.outcome = x.outcome)
  ofPure _ := ⟨fun met => by simp [pure, Rendering.pure] at met, fun _ => rfl⟩
  ofFail _ := ⟨fun met => by simp [fail] at met, fun _ => rfl⟩
  ofBind {_ _ x x' next next'} first others := by
    obtain ⟨failed, same⟩ := first
    cases ended : x.outcome with
    | error f =>
      rw [bind_error ended]
      constructor
      · intro met
        rw [bind_error (failed met)]
      · intro none
        rw [bind_error ((same none).trans ended)]
    | ok a =>
      rw [bind_ok ended]
      obtain ⟨failedLater, sameLater⟩ := others a
      constructor
      · rintro ⟨node, mem, met⟩
        by_cases early : ∃ node ∈ x.visited, meets node
        · rw [bind_error (failed early)]
        · have none : ∀ node ∈ x.visited, ¬ meets node := fun node mem met => early ⟨node, mem, met⟩
          have late := (List.mem_append.mp mem).resolve_left fun mem => none node mem met
          rw [bind_ok ((same none).trans ended)]
          exact failedLater ⟨node, late, met⟩
      · intro none
        obtain ⟨noneEarly, noneLater⟩ := List.forall_mem_append.mp none
        rw [bind_ok ((same noneEarly).trans ended)]
        exact sameLater noneLater

theorem ascends_failing {r r' : Registry} (asks : r.AsksForChildren) {meets : Node → Prop}
    {e : RenderError} (failed : ∀ node, meets node → ∀ g, (r'.answer g node).outcome = .error e)
    (same : ∀ node, ¬ meets node → r'.lookup node = r.lookup node) :
    (failing meets e).Ascends r r' := by
  intro g dispatch node _ related
  by_cases met : meets node
  · refine ⟨fun _ => failed node met _, fun none => ?_⟩
    exact absurd met (none node (visited_subset_bind _ _ (List.mem_singleton_self node)))
  -- Such a node is looked up as before, and its renderer asks for related renderings.
  · have visit : (failing meets e).Related (visit node) (visit node) :=
      ⟨fun found => by simp_all [Rendering.visit], fun _ => rfl⟩
    refine (failing meets e).ofBind visit fun _ => ?_
    rw [Registry.answer_of_lookup_eq (same node met)]
    exact asks.answer related

end Rendering.Congruence

namespace Registry

variable {r : Registry} {node : Node} {kind : NodeKind}

/-- The kind is the node's own, or the node's own kind has no renderer and the kind is a capability
with no renderer for any capability before it. -/
def ResolvesTo (r : Registry) (node : Node) (kind : NodeKind) : Prop :=
  node.kind = kind ∨ node.kind ∉ r.kinds ∧
    ∃ before after, node.capabilities = before ++ kind :: after ∧
      ∀ earlier ∈ before, earlier ∉ r.kinds

theorem resolvesTo_iff :
    r.ResolvesTo node kind ↔
      ∃ before after, node.lookupKinds = before ++ kind :: after ∧
        ∀ earlier ∈ before, earlier ∉ r.kinds := by
  constructor
  · rintro (rfl | ⟨none, before, after, split, others⟩)
    · exact ⟨[], node.capabilities, rfl, List.forall_mem_nil _⟩
    · refine ⟨node.kind :: before, after, ?_, List.forall_mem_cons.mpr ⟨none, others⟩⟩
      rw [Node.lookupKinds, split, List.cons_append]
  · rintro ⟨before, after, split, others⟩
    rcases List.cons_eq_append_iff.mp split with ⟨rfl, same⟩ | ⟨before, rfl, fallback⟩
    · exact .inl (List.cons.inj same).1.symm
    · obtain ⟨none, others⟩ := List.forall_mem_cons.mp others
      exact .inr ⟨none, before, after, fallback, others⟩

theorem firstOf?_register {before : List NodeKind} (others : ∀ earlier ∈ before, earlier ∉ r.kinds)
    (renderer : Renderer) (after : List NodeKind) :
    (r.register kind renderer).firstOf? (before ++ kind :: after) = some renderer := by
  induction before with
  | nil => rw [List.nil_append, firstOf?, register, OrderedMap.get?_insert, if_pos rfl]
  | cons earlier rest ih =>
    obtain ⟨none, others⟩ := List.forall_mem_cons.mp others
    have unset : r.renderers.get? earlier = Option.none := OrderedMap.get?_eq_none_iff.mpr none
    rw [List.cons_append, firstOf?, ih others, register, OrderedMap.get?_insert, unset]
    by_cases same : kind = earlier <;> simp [same]

theorem lookup_register_of_resolvesTo (resolves : r.ResolvesTo node kind) (renderer : Renderer) :
    (r.register kind renderer).lookup node = .ok renderer := by
  obtain ⟨before, after, split, others⟩ := resolvesTo_iff.mp resolves
  rw [lookup_eq_ok_iff, split]
  exact firstOf?_register others renderer after

theorem lookup_register_of_not_resolvesTo (away : ¬ r.ResolvesTo node kind) (renderer : Renderer) :
    (r.register kind renderer).lookup node = r.lookup node := by
  have untouched : (r.registerAll [(kind, renderer)]).firstOf? node.lookupKinds =
      r.firstOf? node.lookupKinds := by
    apply firstOf?_registerAll
    intro before other after split others registered
    obtain rfl := List.mem_singleton.mp registered
    exact away (resolvesTo_iff.mpr ⟨before, after, split, others⟩)
  rw [lookup, lookup, ← untouched]
  rfl

theorem ascends_register (asks : r.AsksForChildren) {renderer : Renderer} {e : RenderError}
    (fails : renderer.AlwaysFails e) (kind : NodeKind) :
    (Congruence.failing (r.ResolvesTo · kind) e).Ascends r (r.register kind renderer) := by
  apply Congruence.ascends_failing asks
  · intro node resolves g
    rw [answer, lookup_register_of_resolvesTo resolves]
    exact fails g node
  · intro node away
    exact lookup_register_of_not_resolvesTo away renderer

end Registry

/-- A renderer that always fails, registered over the dialect at any kind, makes its failure the
outcome of a file that has a visited node for it, and leaves the outcome of all other files. -/
theorem outcome_on_file_failing (kind : NodeKind) {renderer : Renderer} {e : RenderError}
    (fails : renderer.AlwaysFails e) (formatting : Formatting) (scope : ImportScope)
    (file : SourceFile) :
    let java := Dialect.java.registry
    let rendered (r : Registry) := (r.generator formatting scope).on (.file file)
    let failing := java.register kind renderer
    ((∃ node ∈ (rendered java).visited, java.ResolvesTo node kind) →
      (rendered failing).outcome = .error e) ∧
    ((∀ node ∈ (rendered java).visited, ¬ java.ResolvesTo node kind) →
      (rendered failing).outcome = (rendered java).outcome) := by
  intro java rendered failing
  have builtIn : (Node.file file).IsBuiltIn := trivial
  exact (Registry.ascends_register java_asksForChildren fails kind).on formatting scope builtIn

def refusal : RenderError := .rendererFailed ⟨"guard"⟩ "refused"

def refusing : Renderer where
  render _ _ := .fail refusal

theorem refusing_alwaysFails : refusing.AlwaysFails refusal := fun _ _ => rfl

def shelfDecl : ClassDecl where
  name := "Shelf"
  fields := [{
    name := "items"
    type := some (.mk "List" [.wildcard .extend [.ofName "Item"]] 0) }]
  methods := [{
    name := "clear"
    returns := .ofName "void"
    body := some [.composite [.composite [.simple "items.clear();"]]] }]

def shelfFile : SourceFile where
  name := "Shelf.java"
  declarations := [.classDecl shelfDecl]

theorem outcome_on_file_failing_shelfFile :
    let java := Dialect.java.registry
    let rendered (r : Registry) := (r.generator .standard .empty).on (.file shelfFile)
    refusing.AlwaysFails refusal ∧
    ((∃ node ∈ (rendered java).visited, java.ResolvesTo node .generic) ∧
      (rendered (java.register .generic refusing)).outcome = .error refusal) ∧
    ((∃ node ∈ (rendered java).visited, java.ResolvesTo node .statement) ∧
      (rendered (java.register .statement refusing)).outcome = .error refusal) ∧
    (∀ node ∈ (rendered java).visited, ¬ java.ResolvesTo node .declaration) ∧
      (rendered (java.register .declaration refusing)).outcome = (rendered java).outcome := by
  intro java rendered
  have generic : ∃ node ∈ (rendered java).visited, java.ResolvesTo node .generic := by
    have own : ∃ node ∈ (rendered java).visited, node.kind = .generic := by decide +kernel
    obtain ⟨node, mem, same⟩ := own
    exact ⟨node, mem, .inl same⟩
  have statement : ∃ node ∈ (rendered java).visited, java.ResolvesTo node .statement := by
    have nested : ∃ node ∈ (rendered java).visited,
        node.kind = .compositeStatement ∧ node.capabilities = [.statement] := by
      decide +kernel
    obtain ⟨node, mem, kind, capabilities⟩ := nested
    have none : node.kind ∉ java.kinds := kind ▸ of_decide_eq_true rfl
    exact ⟨node, mem, .inr ⟨none, [], [], capabilities, List.forall_mem_nil _⟩⟩
  have away : ∀ node ∈ (rendered java).visited, ¬ java.ResolvesTo node .declaration := by
    have parts : ∀ node ∈ (rendered java).visited, node.kind ≠ .declaration ∧
        (node.kind ∈ java.kinds ∨ .declaration ∉ node.capabilities) := by
      decide +kernel
    intro node mem resolves
    rcases resolves with own | ⟨none, before, after, split, -⟩
    · exact (parts node mem).1 own
    · refine (parts node mem).2.elim none fun absent => absent ?_
      rw [split]
      exact List.mem_append_right _ List.mem_cons_self
  have failing (kind : NodeKind) :=
    outcome_on_file_failing kind refusing_alwaysFails .standard .empty shelfFile
  exact ⟨refusing_alwaysFails, ⟨generic, (failing _).1 generic⟩,
    ⟨statement, (failing _).1 statement⟩, away, (failing _).2 away⟩

end SourceModel
