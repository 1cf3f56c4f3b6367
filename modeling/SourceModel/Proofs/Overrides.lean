import SourceModel.Proofs.RelatedRenderings

namespace SourceModel

open Rendering (Congruence)

namespace Rendering

variable {α β : Type}

theorem visited_subset_bind (x : Rendering α) (next : α → Rendering β) :
    x.visited ⊆ (x >>= next).visited := by
  cases ended : x.outcome with
  | error e => rw [bind_error ended]; exact List.Subset.refl _
  | ok a => rw [bind_ok ended]; exact List.subset_append_left _ _

namespace Congruence

/-- As long as both registries have the same renderer for what the first rendering visits, the
second one is no different. -/
def agreeing (r r' : Registry) : Congruence where
  Related x x' := (∀ node ∈ x.visited, r'.lookup node = r.lookup node) → x' = x
  ofPure _ _ := rfl
  ofFail _ _ := rfl
  ofBind {_ _ x x' next next'} first others agree := by
    have same : x' = x := first fun node mem => agree node (visited_subset_bind x next mem)
    subst same
    cases ended : x'.outcome with
    | error e => rw [bind_error ended, bind_error ended]
    | ok a =>
      rw [bind_ok ended] at agree
      have goesOn := others a fun node mem => agree node (List.mem_append_right _ mem)
      rw [bind_ok ended, bind_ok ended, goesOn]

def visitingBuiltIn : Congruence where
  Related x _ := ∀ node ∈ x.visited, node.IsBuiltIn
  ofPure _ := List.forall_mem_nil _
  ofFail _ := List.forall_mem_nil _
  ofBind {_ _ x _ _ _} first others := by
    cases ended : x.outcome with
    | error e => rwa [bind_error ended]
    | ok a => rw [bind_ok ended]; exact List.forall_mem_append.mpr ⟨first, others a⟩

theorem ascends_agreeing {r : Registry} (asks : r.AsksForChildren) (r' : Registry) :
    (agreeing r r').Ascends r r' := by
  intro g dispatch node _ related
  by_cases same : r'.lookup node = r.lookup node
  · have answers : (agreeing r r').Related (r.answer g node)
        (r'.answer (g.withDispatch dispatch) node) := by
      rw [Registry.answer_of_lookup_eq same]
      exact asks.answer related
    exact (agreeing r r').ofBind (fun _ => rfl) fun _ => answers
  · intro agree
    exact absurd (agree node (visited_subset_bind _ _ (List.mem_singleton_self node))) same

theorem ascends_visitingBuiltIn {r : Registry} (asks : r.AsksForChildren) :
    visitingBuiltIn.Ascends r r := by
  intro g dispatch node builtIn related
  refine visitingBuiltIn.ofBind ?_ fun _ => asks.answer related
  exact List.forall_mem_singleton.mpr builtIn

end Congruence

end Rendering

namespace Registry

variable {r : Registry} {formatting : Formatting} {scope : ImportScope} {node : Node}

theorem on_eq_of_lookup_eq (asks : r.AsksForChildren) {r' : Registry} (builtIn : node.IsBuiltIn)
    (agree : ∀ visited ∈ ((r.generator formatting scope).on node).visited,
      r'.lookup visited = r.lookup visited) :
    (r'.generator formatting scope).on node = (r.generator formatting scope).on node :=
  (Congruence.ascends_agreeing asks r').on formatting scope builtIn agree

theorem isBuiltIn_of_visited (asks : r.AsksForChildren) (builtIn : node.IsBuiltIn) :
    ∀ visited ∈ ((r.generator formatting scope).on node).visited, visited.IsBuiltIn :=
  (Congruence.ascends_visitingBuiltIn asks).on formatting scope builtIn

theorem firstOf?_registerAll {entries : List (NodeKind × Renderer)} {kinds : List NodeKind}
    (untouched : ∀ before kind after, kinds = before ++ kind :: after →
      (∀ earlier ∈ before, earlier ∉ r.kinds) → kind ∉ entries.map Prod.fst) :
    (r.registerAll entries).firstOf? kinds = r.firstOf? kinds := by
  induction kinds with
  | nil => rfl
  | cons kind rest ih =>
    have own := untouched [] kind rest rfl (List.forall_mem_nil _)
    rw [firstOf?, firstOf?, registerAll, OrderedMap.get?_insertAll_of_notMem own]
    cases found : r.renderers.get? kind with
    | some renderer => rfl
    | none =>
      apply ih
      rintro before other after rfl none
      have absent := OrderedMap.get?_eq_none_iff.mp found
      exact untouched (kind :: before) other after rfl (List.forall_mem_cons.mpr ⟨absent, none⟩)

/-- The node has no renderer of its own, and of its capabilities the kind is the first to have
one. -/
def FallsBackTo (r : Registry) (node : Node) (kind : NodeKind) : Prop :=
  node.kind ∉ r.kinds ∧
    ∃ before after, node.capabilities = before ++ kind :: after ∧
      (∀ earlier ∈ before, earlier ∉ r.kinds) ∧ kind ∈ r.kinds

theorem FallsBackTo.mem_capabilities {kind : NodeKind} (fallsBack : r.FallsBackTo node kind) :
    kind ∈ node.capabilities := by
  obtain ⟨-, before, after, split, -⟩ := fallsBack
  rw [split]
  exact List.mem_append_right _ List.mem_cons_self

end Registry

theorem Node.IsBuiltIn.kind_ne_declaration {node : Node} (builtIn : node.IsBuiltIn) :
    node.kind ≠ .declaration := by
  cases node with
  | statement s => cases s <;> exact of_decide_eq_true rfl
  | custom _ _ _ _ => exact builtIn.elim
  | bare _ => exact builtIn.elim
  | _ => exact of_decide_eq_true rfl

theorem java_kind_mem_or_fallsBackTo {node : Node} (builtIn : node.IsBuiltIn) :
    node.kind ∈ Dialect.java.registry.kinds ∨
      Dialect.java.registry.FallsBackTo node .statement ∧ node.capabilities = [.statement] := by
  cases node with
  | statement s =>
    refine .inr ⟨⟨?_, [], [], rfl, List.forall_mem_nil _, of_decide_eq_true rfl⟩, rfl⟩
    cases s <;> exact of_decide_eq_true rfl
  | custom _ _ _ _ => exact builtIn.elim
  | bare _ => exact builtIn.elim
  | _ => exact .inl (of_decide_eq_true rfl)

theorem java_lookup_registerAll {entries : List (NodeKind × Renderer)} {node : Node}
    (builtIn : node.IsBuiltIn)
    (untouched : ∀ kind ∈ entries.map Prod.fst, kind = .declaration ∨
      node.kind ≠ kind ∧ ¬ Dialect.java.registry.FallsBackTo node kind) :
    (Dialect.java.registry.registerAll entries).lookup node =
      Dialect.java.registry.lookup node := by
  rw [Registry.lookup, Registry.lookup, Registry.firstOf?_registerAll]
  intro before kind after split none mem
  rcases List.cons_eq_append_iff.mp split with ⟨rfl, same⟩ | ⟨before, rfl, fallback⟩
  · obtain ⟨rfl, -⟩ := List.cons.inj same
    rcases untouched _ mem with isDeclaration | ⟨notOwn, -⟩
    · exact builtIn.kind_ne_declaration isDeclaration
    · exact notOwn rfl
  · rcases java_kind_mem_or_fallsBackTo builtIn with own | ⟨fallsBack, capabilities⟩
    · exact none _ List.mem_cons_self own
    · obtain rfl : kind = .statement := by
        rw [capabilities] at fallback
        have among : kind ∈ [NodeKind.statement] := by simp [fallback]
        exact List.mem_singleton.mp among
      rcases untouched _ mem with isDeclaration | ⟨-, notFallback⟩
      · exact absurd isDeclaration (of_decide_eq_true rfl)
      · exact notFallback fallsBack

/-- Calls on the dialect's registry leave the rendering of a file as it is if every node that the
rendering visits keeps its view. That is so if they register declarations as such only, and kinds
that no visited node has or falls back to. -/
theorem on_file_overridden (calls : List RegistryCall) (formatting : Formatting)
    (scope : ImportScope) (file : SourceFile) :
    let java := Dialect.java.registry
    let changed := java.afterCalls calls
    let rendered (r : Registry) := (r.generator formatting scope).on (.file file)
    ((∀ node ∈ (rendered java).visited, changed.lookup node = java.lookup node) →
      rendered changed = rendered java) ∧
    ((∀ kind ∈ (calls.flatMap RegistryCall.entries).map Prod.fst, kind = .declaration ∨
        ∀ node ∈ (rendered java).visited, node.kind ≠ kind ∧ ¬ java.FallsBackTo node kind) →
      rendered changed = rendered java) := by
  intro java changed rendered
  have builtIn : (Node.file file).IsBuiltIn := trivial
  have kept : (∀ node ∈ (rendered java).visited, changed.lookup node = java.lookup node) →
      rendered changed = rendered java :=
    Registry.on_eq_of_lookup_eq java_asksForChildren builtIn
  refine ⟨kept, fun untouched => kept fun node mem => ?_⟩
  have own := Registry.isBuiltIn_of_visited java_asksForChildren builtIn node mem
  have sum : changed = java.registerAll (calls.flatMap RegistryCall.entries) :=
    Registry.afterCalls_eq_registerAll java calls
  -- The calls leave the registry of the dialect with their entries on top.
  rw [sum]
  exact java_lookup_registerAll own fun kind registered =>
    (untouched kind registered).imp_right fun never => never node mem

def countField : Field where
  name := "count"
  type := some (.ofName "int")

def nextMethod : Method where
  name := "next"
  returns := .ofName "int"
  body := some [.composite [.simple "count++;"], .simple "return count;"]

def counterDecl : ClassDecl where
  name := "Counter"
  fields := [countField]
  methods := [nextMethod]

def counterFile : SourceFile where
  name := "Counter.java"
  declarations := [.classDecl counterDecl]

def placeholder : Renderer where
  render _ _ := pure (.present "?")

def foreignCalls : List RegistryCall :=
  [.register (.given .declaration placeholder), .register (.given .interfaceDecl placeholder),
   .extend ((Registry.empty "widgets").register ⟨"widget"⟩ placeholder)]

def repeatedCalls : List RegistryCall :=
  [.register (.installed .statement View.statement),
   .register (.installed .simpleStatement View.statement)]

theorem on_file_overridden_counterFile :
    let java := Dialect.java.registry
    let rendered (r : Registry) := (r.generator .standard .empty).on (.file counterFile)
    ((∀ node ∈ (rendered java).visited,
        (java.afterCalls repeatedCalls).lookup node = java.lookup node) ∧
      rendered (java.afterCalls repeatedCalls) = rendered java) ∧
    ((∀ kind ∈ (foreignCalls.flatMap RegistryCall.entries).map Prod.fst, kind = .declaration ∨
        ∀ node ∈ (rendered java).visited, node.kind ≠ kind ∧ ¬ java.FallsBackTo node kind) ∧
      rendered (java.afterCalls foreignCalls) = rendered java) := by
  intro java rendered
  have kept : ∀ node ∈ (rendered java).visited,
      (java.afterCalls repeatedCalls).lookup node = java.lookup node := by
    intro node mem
    have file : (Node.file counterFile).IsBuiltIn := trivial
    have builtIn := Registry.isBuiltIn_of_visited java_asksForChildren file node mem
    cases node with
    | statement s => cases s <;> rfl
    | custom _ _ _ _ => exact builtIn.elim
    | bare _ => exact builtIn.elim
    | _ => rfl
  have apart : ∀ kind ∈ [NodeKind.interfaceDecl, ⟨"widget"⟩],
      ∀ node ∈ ((Dialect.java.registry.generator .standard .empty).on
        (.file counterFile)).visited, node.kind ≠ kind ∧ kind ∉ node.capabilities := by
    decide +kernel
  have untouched : ∀ kind ∈ (foreignCalls.flatMap RegistryCall.entries).map Prod.fst,
      kind = .declaration ∨
        ∀ node ∈ (rendered java).visited, node.kind ≠ kind ∧ ¬ java.FallsBackTo node kind := by
    intro kind registered
    rcases List.mem_cons.mp registered with isDeclaration | others
    · exact .inl isDeclaration
    · refine .inr fun node mem => ?_
      have away := apart kind others node mem
      exact ⟨away.1, fun fallsBack => away.2 fallsBack.mem_capabilities⟩
  exact ⟨⟨kept, (on_file_overridden repeatedCalls .standard .empty counterFile).1 kept⟩,
    untouched, (on_file_overridden foreignCalls .standard .empty counterFile).2 untouched⟩

end SourceModel
