import SourceModel.Proofs.ModelText

namespace SourceModel

theorem height_le_of_mem {α : Type} {height : α → Nat} {items : List α} {bound : Nat}
    (enough : greatest (items.map height) ≤ bound) {a : α} (mem : a ∈ items) :
    height a ≤ bound :=
  Nat.le_trans (le_greatest (List.mem_map_of_mem mem)) enough

theorem Statement.heightAll_eq (ss : List Statement) :
    Statement.heightAll ss = greatest (ss.map Statement.height) := by
  induction ss with
  | nil => rfl
  | cons s rest ih => rw [Statement.heightAll, ih]; rfl

theorem Statement.writtenAll_eq (ss : List Statement) :
    Statement.writtenAll ss = ss.map Statement.written := by
  induction ss with
  | nil => rfl
  | cons s rest ih => rw [Statement.writtenAll, ih]; rfl

namespace Generator

variable {ι : Type} {g : Generator} {node : ι → Node} {result : ι → Fragment} {items : List ι}

theorem onEach_map (g : Generator) (node : ι → Node) (items : List ι) :
    g.onEach (items.map node) = items.map fun item => g.on (node item) := by
  rw [onEach, List.map_map]
  rfl

theorem outcome_joinEachWith (untyped : ι → Option NodeKind)
    (each : ∀ item ∈ items,
      (g.on (node item)).outcome = unlessUntyped (untyped item) (result item))
    (joiner : Joiner) :
    (g.joinEachWith (items.map node) joiner).outcome =
      unlessUntyped (items.findSome? untyped) (joiner.join (items.map result)) := by
  have list := Rendering.outcome_sequence_unlessUntyped each
  rw [joinEachWith, onEach_map, Rendering.joined, Rendering.outcome_bind, list]
  cases items.findSome? untyped <;> rfl

theorem outcome_joinEachWith_ok
    (each : ∀ item ∈ items, (g.on (node item)).outcome = .ok (result item)) (joiner : Joiner) :
    (g.joinEachWith (items.map node) joiner).outcome = .ok (joiner.join (items.map result)) := by
  rw [joinEachWith, onEach_map]
  exact Rendering.outcome_joined_ok (Rendering.outcome_sequence_ok each) joiner

end Generator

structure Registry.WritesModel (r : Registry) : Prop extends r.WritesTypes where
  file : ∀ x, r.lookup (.file x) = .ok View.file.renderer
  importLine : ∀ x, r.lookup (.importLine x) = .ok View.importLine.renderer
  classDecl : ∀ x, r.lookup (.classDecl x) = .ok View.classDecl.renderer
  interfaceDecl : ∀ x, r.lookup (.interfaceDecl x) = .ok View.interfaceDecl.renderer
  method : ∀ x, r.lookup (.method x) = .ok View.method.renderer
  field : ∀ x, r.lookup (.field x) = .ok View.field.renderer
  parameter : ∀ x, r.lookup (.parameter x) = .ok View.parameter.renderer
  statement : ∀ x, r.lookup (.statement x) = .ok View.statement.renderer
  javadoc : ∀ x, r.lookup (.javadoc x) = .ok View.javadoc.renderer
  javadocTag : ∀ x, r.lookup (.javadocTag x) = .ok View.javadocTag.renderer

/-- Simple and composite statements have kinds without a view and share that of their capability. -/
theorem java_lookup_statement (s : Statement) :
    Dialect.java.registry.lookup (.statement s) = .ok View.statement.renderer := by
  cases s <;> rfl

theorem java_writesModel : Dialect.java.registry.WritesModel where
  toWritesTypes := java_writesTypes
  file _ := rfl
  importLine _ := rfl
  classDecl _ := rfl
  interfaceDecl _ := rfl
  method _ := rfl
  field _ := rfl
  parameter _ := rfl
  statement := java_lookup_statement
  javadoc _ := rfl
  javadocTag _ := rfl

namespace Registry

abbrev within (r : Registry) (formatting : Formatting) (depth : Nat) (scope : ImportScope) :
    Generator :=
  ⟨formatting, scope, r.dispatch formatting depth⟩

namespace WritesModel

variable {r : Registry} {formatting : Formatting} {scope : ImportScope} {depth : Nat}

theorem outcome_statement (views : r.WritesModel) (s : Statement) (enough : s.height ≤ depth) :
    (r.dispatch formatting depth scope (.statement s)).outcome = .ok s.written := by
  induction depth generalizing s with
  | zero => cases s <;> simp [Statement.height] at enough
  | succ depth ih =>
    rw [outcome_dispatch_succ (views.statement s)]
    cases s with
    | simple text => rfl
    | composite children =>
      have nested : greatest (children.map Statement.height) ≤ depth := by
        simpa [Statement.height, Statement.heightAll_eq] using enough
      have each : ∀ s ∈ children,
          ((r.within formatting depth scope).on (.statement s)).outcome = .ok s.written :=
        fun s mem => ih s (height_le_of_mem nested mem)
      rw [Statement.written, Statement.writtenAll_eq]
      exact Generator.outcome_joinEachWith_ok each ⟨"", "", ""⟩

theorem outcome_javadoc (views : r.WritesModel) (javadoc : Javadoc) (enough : 2 ≤ depth) :
    (r.dispatch formatting depth scope (.javadoc javadoc)).outcome =
      .ok (javadoc.written formatting.newline) := by
  obtain ⟨depth, rfl⟩ := Nat.exists_eq_add_of_le' enough
  rw [outcome_dispatch_succ (views.javadoc javadoc)]
  have each : ∀ tag ∈ javadoc.tags,
      ((r.within formatting (depth + 1) scope).on (.javadocTag tag)).outcome =
        .ok tag.written := by
    intro tag _
    exact outcome_dispatch_succ (views.javadocTag tag) formatting depth scope
  have list := Rendering.outcome_sequence_ok each
  rw [← Generator.onEach_map] at list
  refine (Rendering.outcome_bind_ok list _).trans ?_
  change Rendering.outcome (if (Text.lines javadoc.text).isEmpty && javadoc.tagTexts.isEmpty then
    pure Fragment.absent else _) = .ok (if _ then _ else _)
  split <;> rfl

theorem outcome_documented (views : r.WritesModel) (javadoc : Option Javadoc) (text : String)
    (enough : 2 ≤ depth) :
    (View.documented (r.within formatting depth scope) javadoc text).outcome =
      .ok (.present (commented formatting.newline javadoc text)) := by
  have comment : ((r.within formatting depth scope).onOptional (javadoc.map .javadoc)).outcome =
      .ok (.ofOptional (Javadoc.written formatting.newline) javadoc) := by
    cases javadoc with
    | none => rfl
    | some javadoc => exact views.outcome_javadoc javadoc enough
  refine (Rendering.outcome_bind_ok comment _).trans ?_
  rw [commented, Rendering.outcome_pure]
  cases Fragment.ofOptional (Javadoc.written formatting.newline) javadoc with
  | absent => rw [Fragment.join_cons_absent, Fragment.join_cons_present]; rfl
  | present comment => rw [Fragment.join_cons_present, Fragment.join_cons_present]; rfl

theorem outcome_types (views : r.WritesModel) {ts : List TypeRef}
    (enough : greatest (ts.map TypeRef.height) ≤ depth) (joiner : Joiner) :
    ((r.within formatting depth scope).joinEachWith (ts.map .type) joiner).outcome =
      .ok (joiner.join (ts.map (TypeRef.written scope.shortName))) := by
  apply Generator.outcome_joinEachWith_ok
  intro t mem
  exact views.outcome_type t depth (height_le_of_mem enough mem)

theorem outcome_generics (views : r.WritesModel) {gs : List Generic}
    (enough : greatest (gs.map Generic.height) ≤ depth) (joiner : Joiner) :
    ((r.within formatting depth scope).joinEachWith (gs.map .generic) joiner).outcome =
      .ok (joiner.join (gs.map (Generic.written scope.shortName))) := by
  apply Generator.outcome_joinEachWith_ok
  intro g mem
  exact views.outcome_generic g depth (height_le_of_mem enough mem)

theorem outcome_onRequired (views : r.WritesModel) (formatting : Formatting)
    (scope : ImportScope) (owner : NodeKind) {type : Option TypeRef}
    (enough : optionalTypeHeight type ≤ depth) :
    ((r.within formatting depth scope).onRequired (type.map .type) owner "type").outcome =
      unlessUntyped (if type.isNone then some owner else none)
        (.ofOptional (TypeRef.written scope.shortName) type) := by
  cases type with
  | none => rfl
  | some t => exact views.outcome_type t depth enough

theorem outcome_parameter (views : r.WritesModel) (parameter : Parameter)
    (enough : parameter.height ≤ depth) :
    (r.dispatch formatting depth scope (.parameter parameter)).outcome =
      unlessUntyped parameter.untyped? (parameter.written scope.shortName) := by
  cases depth with
  | zero => exact absurd enough (Nat.not_succ_le_zero _)
  | succ depth =>
    rw [outcome_dispatch_succ (views.parameter parameter)]
    have type := views.outcome_onRequired formatting scope .parameter
      (Nat.le_of_succ_le_succ enough)
    exact Rendering.outcome_bind_unlessUntyped_ok type rfl

theorem outcome_field (views : r.WritesModel) (field : Field) (enough : field.height ≤ depth) :
    (r.dispatch formatting depth scope (.field field)).outcome =
      unlessUntyped field.untyped? (.present (field.text formatting scope.shortName)) := by
  cases depth with
  | zero => exact absurd enough (Nat.not_succ_le_zero _)
  | succ depth =>
    rw [outcome_dispatch_succ (views.field field)]
    have nested := Nat.max_le.mp (Nat.le_of_succ_le_succ enough)
    have type := views.outcome_onRequired formatting scope .field nested.1
    exact Rendering.outcome_bind_unlessUntyped_ok type (views.outcome_documented _ _ nested.2)

theorem outcome_method (views : r.WritesModel) (method : Method)
    (enough : method.height ≤ depth) :
    (r.dispatch formatting depth scope (.method method)).outcome =
      unlessUntyped method.untyped? (.present (method.text formatting scope.shortName)) := by
  cases depth with
  | zero => exact absurd enough (Nat.not_succ_le_zero _)
  | succ depth =>
    rw [outcome_dispatch_succ (views.method method)]
    have nested := Nat.le_of_succ_le_succ enough
    simp only [greatest, Nat.max_le] at nested
    obtain ⟨returnsLe, parametersLe, genericsLe, throwsLe, bodyLe, commentLe, -⟩ := nested
    have parameters : ((r.within formatting depth scope).joinEach
        (method.parameters.map .parameter) ", ").outcome =
          unlessUntyped method.untyped?
            (.join ", " (method.parameters.map (Parameter.written scope.shortName))) := by
      apply Generator.outcome_joinEachWith
      intro parameter mem
      exact views.outcome_parameter parameter (height_le_of_mem parametersLe mem)
    refine Rendering.outcome_bind_unlessUntyped_ok parameters ?_
    refine (Rendering.outcome_bind_ok (views.outcome_generics genericsLe _) _).trans ?_
    refine (Rendering.outcome_bind_ok (views.outcome_type _ depth returnsLe) _).trans ?_
    refine (Rendering.outcome_bind_ok (views.outcome_types throwsLe _) _).trans ?_
    cases written : method.body with
    | none =>
      have text : method.text formatting scope.shortName =
          commented formatting.newline method.javadoc (method.head scope.shortName ++ ";") := by
        rw [Method.text, written]
      rw [text]
      exact views.outcome_documented _ _ commentLe
    | some statements =>
      rw [written] at bodyLe
      have body : ((r.within formatting depth scope).joinEach
          (statements.map .statement) formatting.newline).outcome =
            .ok (.join formatting.newline (statements.map Statement.written)) := by
        apply Generator.outcome_joinEachWith_ok
        intro s mem
        exact views.outcome_statement s (height_le_of_mem bodyLe mem)
      have text : method.text formatting scope.shortName =
          commented formatting.newline method.javadoc
            (method.head scope.shortName ++ " " ++
              formatting.block (.join formatting.newline (statements.map Statement.written))) := by
        rw [Method.text, written]
      rw [text]
      refine (Rendering.outcome_bind_ok body _).trans ?_
      exact views.outcome_documented _ _ commentLe

theorem outcome_parts (views : r.WritesModel) (parts : View.DeclarationParts)
    (clauses : List Fragment)
    (genericsLe : greatest (parts.generics.map Generic.height) ≤ depth)
    (fieldsLe : greatest (parts.fields.map Field.height) ≤ depth)
    (methodsLe : greatest (parts.methods.map Method.height) ≤ depth) (commentLe : 2 ≤ depth) :
    (parts.render (r.within formatting depth scope) clauses).outcome =
      unlessUntyped
        ((parts.fields.findSome? Field.untyped?).or (parts.methods.findSome? Method.untyped?))
        (.present (parts.text formatting scope.shortName clauses)) := by
  have fields : ((r.within formatting depth scope).joinEach
      (parts.fields.map .field) formatting.newline).outcome =
        unlessUntyped (parts.fields.findSome? Field.untyped?)
          (.join formatting.newline
            (parts.fields.map fun field =>
              .present (field.text formatting scope.shortName))) := by
    apply Generator.outcome_joinEachWith
    intro field mem
    exact views.outcome_field field (height_le_of_mem fieldsLe mem)
  have methods : ((r.within formatting depth scope).joinEach
      (parts.methods.map .method) formatting.blankLine).outcome =
        unlessUntyped (parts.methods.findSome? Method.untyped?)
          (.join formatting.blankLine
            (parts.methods.map fun method =>
              .present (method.text formatting scope.shortName))) := by
    apply Generator.outcome_joinEachWith
    intro method mem
    exact views.outcome_method method (height_le_of_mem methodsLe mem)
  refine (Rendering.outcome_bind_ok (views.outcome_generics genericsLe _) _).trans ?_
  refine Rendering.outcome_bind_unlessUntyped fields ?_
  refine Rendering.outcome_bind_unlessUntyped_ok methods ?_
  rw [View.DeclarationParts.text, View.DeclarationParts.members, List.map_map, List.map_map]
  exact views.outcome_documented _ _ commentLe

theorem outcome_declaration (views : r.WritesModel) (decl : Declaration)
    (enough : decl.height ≤ depth) :
    (r.dispatch formatting depth scope (.ofDeclaration decl)).outcome =
      unlessUntyped decl.untyped? (.present (decl.text formatting scope.shortName)) := by
  cases depth with
  | zero => cases decl <;> exact absurd enough (Nat.not_succ_le_zero _)
  | succ depth =>
    cases decl with
    | classDecl decl =>
      rw [Node.ofDeclaration, outcome_dispatch_succ (views.classDecl decl)]
      have nested := Nat.le_of_succ_le_succ enough
      simp only [greatest, Nat.max_le] at nested
      obtain ⟨supertypeLe, interfacesLe, genericsLe, fieldsLe, methodsLe, commentLe, -⟩ := nested
      have supertype : ((r.within formatting depth scope).onOptional
          (decl.supertype.map .type)).outcome =
            .ok (.ofOptional (TypeRef.written scope.shortName) decl.supertype) := by
        cases written : decl.supertype with
        | none => rfl
        | some t =>
          rw [written] at supertypeLe
          exact views.outcome_type t depth supertypeLe
      refine (Rendering.outcome_bind_ok supertype _).trans ?_
      refine (Rendering.outcome_bind_ok (views.outcome_types interfacesLe _) _).trans ?_
      exact views.outcome_parts _ _ genericsLe fieldsLe methodsLe commentLe
    | interfaceDecl decl =>
      rw [Node.ofDeclaration, outcome_dispatch_succ (views.interfaceDecl decl)]
      have nested := Nat.le_of_succ_le_succ enough
      simp only [greatest, Nat.max_le] at nested
      obtain ⟨supertypesLe, genericsLe, fieldsLe, methodsLe, commentLe, -⟩ := nested
      refine (Rendering.outcome_bind_ok (views.outcome_types supertypesLe _) _).trans ?_
      exact views.outcome_parts _ _ genericsLe fieldsLe methodsLe commentLe

theorem outcome_file (views : r.WritesModel) (file : SourceFile) (enough : file.height ≤ depth) :
    (r.dispatch formatting depth scope (.file file)).outcome =
      unlessUntyped file.untyped? (file.written formatting) := by
  cases depth with
  | zero => exact absurd enough (Nat.not_succ_le_zero _)
  | succ depth =>
    rw [outcome_dispatch_succ (views.file file)]
    obtain ⟨importLe, declarationsLe⟩ := Nat.max_le.mp (Nat.le_of_succ_le_succ enough)
    obtain ⟨depth, rfl⟩ := Nat.exists_eq_add_of_le' importLe
    have imports : ∀ imported,
        ((r.within formatting (depth + 1) scope).on (.importLine imported)).outcome =
          .ok (.present (importText imported)) := by
      intro imported
      exact outcome_dispatch_succ (views.importLine imported) formatting depth scope
    have declarations : (((r.within formatting (depth + 1) scope).withScope (.ofFile file)).joinEach
        (file.declarations.map .ofDeclaration) formatting.blankLine).outcome =
          unlessUntyped file.untyped? (.join formatting.blankLine
            (file.declarations.map fun decl =>
              .present (decl.text formatting (ImportScope.ofFile file).shortName))) := by
      apply Generator.outcome_joinEachWith
      intro decl mem
      exact views.outcome_declaration decl (height_le_of_mem declarationsLe mem)
    change (View.file.render (r.within formatting (depth + 1) scope) file).outcome = _
    rw [SourceModel.outcome_file imports, declarations, SourceFile.written, List.map_map]
    cases file.untyped? <;> rfl

theorem outcome_node (views : r.WritesModel) {node : Node} (builtIn : node.IsBuiltIn)
    (enough : node.height ≤ depth) :
    ∃ fragment, (r.dispatch formatting depth scope node).outcome =
      unlessUntyped node.untyped? fragment := by
  cases node with
  | file file => exact ⟨_, views.outcome_file file enough⟩
  | importLine imported =>
    cases depth with
    | zero => exact absurd enough (Nat.not_succ_le_zero _)
    | succ depth => exact ⟨_, outcome_dispatch_succ (views.importLine imported) _ depth scope⟩
  | classDecl decl => exact ⟨_, views.outcome_declaration (.classDecl decl) enough⟩
  | interfaceDecl decl => exact ⟨_, views.outcome_declaration (.interfaceDecl decl) enough⟩
  | method method => exact ⟨_, views.outcome_method method enough⟩
  | field field => exact ⟨_, views.outcome_field field enough⟩
  | parameter parameter => exact ⟨_, views.outcome_parameter parameter enough⟩
  | type t => exact ⟨_, views.outcome_type t depth enough⟩
  | generic g => exact ⟨_, views.outcome_generic g depth enough⟩
  | statement s => exact ⟨_, views.outcome_statement s enough⟩
  | javadoc javadoc => exact ⟨_, views.outcome_javadoc javadoc enough⟩
  | javadocTag tag =>
    cases depth with
    | zero => exact absurd enough (Nat.not_succ_le_zero _)
    | succ depth => exact ⟨_, outcome_dispatch_succ (views.javadocTag tag) _ depth scope⟩
  | custom _ _ _ _ => exact builtIn.elim
  | bare _ => exact builtIn.elim

theorem outcome_on_node (views : r.WritesModel) (formatting : Formatting) (scope : ImportScope)
    {node : Node} (builtIn : node.IsBuiltIn) :
    ∃ fragment, ((r.generator formatting scope).on node).outcome =
      unlessUntyped node.untyped? fragment :=
  views.outcome_node builtIn (Nat.le_add_right _ _)

theorem outcome_on_file (views : r.WritesModel) (formatting : Formatting) (scope : ImportScope)
    (file : SourceFile) :
    ((r.generator formatting scope).on (.file file)).outcome =
      unlessUntyped file.untyped? (file.written formatting) :=
  views.outcome_file file (Nat.le_add_right _ _)

end WritesModel

end Registry

end SourceModel
