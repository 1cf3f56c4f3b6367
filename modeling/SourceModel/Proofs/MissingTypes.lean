import SourceModel.Proofs.ModelRendering

namespace SourceModel

theorem findSome?_marks {α β : Type} {find : α → Option β} {mark : β} {Marked : α → Prop}
    (each : ∀ a, find a = none ∧ ¬ Marked a ∨ find a = some mark ∧ Marked a) (items : List α) :
    items.findSome? find = none ∧ (¬ ∃ a ∈ items, Marked a) ∨
      items.findSome? find = some mark ∧ ∃ a ∈ items, Marked a := by
  cases found : items.findSome? find with
  | none =>
    refine .inl ⟨rfl, ?_⟩
    rintro ⟨a, mem, marked⟩
    have unfound := List.findSome?_eq_none_iff.mp found a mem
    rcases each a with ⟨-, unmarked⟩ | ⟨some, -⟩
    · exact unmarked marked
    · rw [some] at unfound
      cases unfound
  | some mark' =>
    obtain ⟨a, mem, eq⟩ := List.exists_of_findSome?_eq_some found
    rcases each a with ⟨none, -⟩ | ⟨some, marked⟩
    · rw [none] at eq
      cases eq
    · exact .inr ⟨eq.symm.trans some, a, mem, marked⟩

theorem Field.untyped?_eq (field : Field) :
    field.untyped? = none ∧ field.type ≠ none ∨
      field.untyped? = some .field ∧ field.type = none := by
  cases type : field.type <;> simp [untyped?, type]

theorem Parameter.untyped?_eq (parameter : Parameter) :
    parameter.untyped? = none ∧ parameter.type ≠ none ∨
      parameter.untyped? = some .parameter ∧ parameter.type = none := by
  cases type : parameter.type <;> simp [untyped?, type]

theorem Method.untyped?_eq (method : Method) :
    method.untyped? = none ∧ (¬ ∃ parameter ∈ method.parameters, parameter.type = none) ∨
      method.untyped? = some .parameter ∧
        ∃ parameter ∈ method.parameters, parameter.type = none :=
  findSome?_marks Parameter.untyped?_eq method.parameters

namespace Declaration

def HasUntypedField (decl : Declaration) : Prop := ∃ field ∈ decl.fields, field.type = none

def HasUntypedParameter (decl : Declaration) : Prop :=
  ∃ method ∈ decl.methods, ∃ parameter ∈ method.parameters, parameter.type = none

def Untyped (decl : Declaration) : Prop := decl.HasUntypedField ∨ decl.HasUntypedParameter

theorem untyped?_eq (decl : Declaration) :
    decl.untyped? = none ∧ ¬ decl.Untyped ∨
      decl.untyped? = some .field ∧ decl.HasUntypedField ∨
        decl.untyped? = some .parameter ∧ ¬ decl.HasUntypedField ∧ decl.HasUntypedParameter := by
  rcases findSome?_marks Field.untyped?_eq decl.fields with ⟨none, typed⟩ | ⟨some, untyped⟩
  · rw [untyped?, none, Option.none_or]
    rcases findSome?_marks Method.untyped?_eq decl.methods with ⟨none', typed'⟩ | ⟨some', untyped'⟩
    · exact .inl ⟨none', not_or.mpr ⟨typed, typed'⟩⟩
    · exact .inr (.inr ⟨some', typed, untyped'⟩)
  · rw [untyped?, some, Option.some_or]
    exact .inr (.inl ⟨rfl, untyped⟩)

theorem untyped?_eq_none_iff {decl : Declaration} : decl.untyped? = none ↔ ¬ decl.Untyped := by
  rcases decl.untyped?_eq with ⟨none, typed⟩ | ⟨some, untyped⟩ | ⟨some, -, untyped⟩
  · exact iff_of_true none typed
  · simp [some, Untyped, untyped]
  · simp [some, Untyped, untyped]

end Declaration

namespace SourceFile

theorem untyped?_eq_none_iff {file : SourceFile} :
    file.untyped? = none ↔ ∀ decl ∈ file.declarations, ¬ decl.Untyped := by
  simp [untyped?, List.findSome?_eq_none_iff, Declaration.untyped?_eq_none_iff]

theorem untyped?_of_first {file : SourceFile} {before after : List Declaration}
    {decl : Declaration} (split : file.declarations = before ++ decl :: after)
    (typed : ∀ earlier ∈ before, ¬ earlier.Untyped) (untyped : decl.Untyped) :
    file.untyped? = decl.untyped? := by
  have none : before.findSome? Declaration.untyped? = none := by
    rw [List.findSome?_eq_none_iff]
    intro earlier mem
    exact Declaration.untyped?_eq_none_iff.mpr (typed earlier mem)
  rw [untyped?, split, List.findSome?_append, none, Option.none_or, List.findSome?_cons]
  cases found : decl.untyped? with
  | none => exact absurd untyped (Declaration.untyped?_eq_none_iff.mp found)
  | some owner => rfl

end SourceFile

theorem Declaration.untyped?_owner {decl : Declaration} {owner : NodeKind}
    (untyped : decl.untyped? = some owner) : owner = .field ∨ owner = .parameter := by
  rcases decl.untyped?_eq with ⟨eq, -⟩ | ⟨eq, -⟩ | ⟨eq, -⟩ <;> rw [eq] at untyped
  · cases untyped
  · exact .inl (Option.some.inj untyped).symm
  · exact .inr (Option.some.inj untyped).symm

theorem Node.untyped?_owner {node : Node} {owner : NodeKind}
    (untyped : node.untyped? = some owner) : owner = .field ∨ owner = .parameter := by
  cases node with
  | file file =>
    obtain ⟨decl, -, found⟩ := List.exists_of_findSome?_eq_some untyped
    exact decl.untyped?_owner found
  | classDecl decl => exact Declaration.untyped?_owner untyped
  | interfaceDecl decl => exact Declaration.untyped?_owner untyped
  | method method =>
    rcases method.untyped?_eq with ⟨eq, -⟩ | ⟨eq, -⟩
    · cases eq.symm.trans untyped
    · exact .inr (Option.some.inj (eq.symm.trans untyped)).symm
  | field field =>
    rcases field.untyped?_eq with ⟨eq, -⟩ | ⟨eq, -⟩
    · cases eq.symm.trans untyped
    · exact .inl (Option.some.inj (eq.symm.trans untyped)).symm
  | parameter parameter =>
    rcases parameter.untyped?_eq with ⟨eq, -⟩ | ⟨eq, -⟩
    · cases eq.symm.trans untyped
    · exact .inr (Option.some.inj (eq.symm.trans untyped)).symm
  | _ => cases untyped

theorem unlessUntyped_eq_error_iff {α : Type} {untyped : Option NodeKind} {a : α}
    {e : RenderError} :
    unlessUntyped untyped a = .error e ↔
      ∃ owner, untyped = some owner ∧ e = .malformedModel owner "type is missing" := by
  cases untyped with
  | none => simp [unlessUntyped]
  | some owner => simp [unlessUntyped, RenderError.missing, eq_comm]

/-- A file fails to render exactly if a field or a parameter in it has no type, and the error names
the first part without one. -/
theorem outcome_file_untyped (formatting : Formatting) (scope : ImportScope) (file : SourceFile) :
    let rendered := fun node =>
      ((Dialect.java.registry.generator formatting scope).on node).outcome
    ((∃ e, rendered (.file file) = .error e) ↔ ∃ decl ∈ file.declarations, decl.Untyped) ∧
    (∀ before decl after, file.declarations = before ++ decl :: after →
      (∀ earlier ∈ before, ¬ earlier.Untyped) →
      (decl.HasUntypedField →
        rendered (.file file) = .error (.malformedModel .field "type is missing")) ∧
      (¬ decl.HasUntypedField → decl.HasUntypedParameter →
        rendered (.file file) = .error (.malformedModel .parameter "type is missing"))) ∧
    ∀ node, node.IsBuiltIn → ∀ e, rendered node = .error e →
      e = .malformedModel .field "type is missing" ∨
        e = .malformedModel .parameter "type is missing" := by
  intro rendered
  have outcome : rendered (.file file) = unlessUntyped file.untyped? (file.written formatting) :=
    java_writesModel.outcome_on_file formatting scope file
  refine ⟨?_, ?_, ?_⟩
  · rw [outcome]
    constructor
    · rintro ⟨e, failed⟩
      obtain ⟨owner, untyped, -⟩ := unlessUntyped_eq_error_iff.mp failed
      obtain ⟨decl, mem, found⟩ := List.exists_of_findSome?_eq_some untyped
      refine ⟨decl, mem, ?_⟩
      by_cases typed : decl.Untyped
      · exact typed
      · rw [Declaration.untyped?_eq_none_iff.mpr typed] at found
        cases found
    · rintro ⟨decl, mem, untyped⟩
      cases found : file.untyped? with
      | none => exact absurd untyped (SourceFile.untyped?_eq_none_iff.mp found decl mem)
      | some owner => exact ⟨_, rfl⟩
  · intro before decl after split typed
    rw [outcome]
    constructor
    · intro untyped
      rw [SourceFile.untyped?_of_first split typed (.inl untyped)]
      -- The fields are searched before the parameters.
      rcases decl.untyped?_eq with ⟨-, none⟩ | ⟨eq, -⟩ | ⟨-, none, -⟩
      · exact absurd (.inl untyped) none
      · rw [eq]; rfl
      · exact absurd untyped none
    · intro typedFields untyped
      rw [SourceFile.untyped?_of_first split typed (.inr untyped)]
      rcases decl.untyped?_eq with ⟨-, none⟩ | ⟨-, some⟩ | ⟨eq, -, -⟩
      · exact absurd (.inr untyped) none
      · exact absurd some typedFields
      · rw [eq]; rfl
  · intro node builtIn e failed
    obtain ⟨fragment, ended⟩ := java_writesModel.outcome_on_node formatting scope builtIn
    change rendered node = _ at ended
    rw [ended] at failed
    obtain ⟨owner, untyped, rfl⟩ := unlessUntyped_eq_error_iff.mp failed
    rcases node.untyped?_owner untyped with rfl | rfl
    · exact .inl rfl
    · exact .inr rfl

def roleDecl : Declaration := .interfaceDecl { name := "Role" }

def userDecl : Declaration :=
  .classDecl
    { name := "User"
      fields := [{ name := "id", type := some (.ofName "long") }]
      methods :=
        [{ name := "rename", returns := .ofName "void", parameters := [{ name := "next" }] }] }

def cacheDecl : Declaration := .classDecl { name := "Cache", fields := [{ name := "hits" }] }

def usersFile : SourceFile where
  name := "com/acme/Users.java"
  declarations := [roleDecl, userDecl, cacheDecl]

theorem outcome_file_untyped_usersFile :
    (usersFile.declarations = [roleDecl] ++ userDecl :: [cacheDecl] ∧
      (∀ earlier ∈ [roleDecl], ¬ earlier.Untyped) ∧ ¬ userDecl.HasUntypedField ∧
      userDecl.HasUntypedParameter) ∧
    (Node.file usersFile).IsBuiltIn ∧
    ((Dialect.java.registry.generator .standard .empty).on (.file usersFile)).outcome =
      .error (.malformedModel .parameter "type is missing") := by
  have typedRole : ∀ earlier ∈ [roleDecl], ¬ earlier.Untyped := by
    simp [roleDecl, Declaration.Untyped, Declaration.HasUntypedField,
      Declaration.HasUntypedParameter, Declaration.fields, Declaration.methods]
  have typedField : ¬ userDecl.HasUntypedField := by
    simp [userDecl, Declaration.HasUntypedField, Declaration.fields]
  have untypedParameter : userDecl.HasUntypedParameter := by
    simp [userDecl, Declaration.HasUntypedParameter, Declaration.methods]
  have outcome := outcome_file_untyped .standard .empty usersFile
  exact ⟨⟨rfl, typedRole, typedField, untypedParameter⟩, trivial,
    (outcome.2.1 [roleDecl] userDecl [cacheDecl] rfl typedRole).2 typedField untypedParameter⟩

end SourceModel
