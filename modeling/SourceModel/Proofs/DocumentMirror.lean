import SourceModel.Proofs.Demands

namespace SourceModel.Document

open TypeExpr (parseType parseGeneric)

def FieldEntry.demands (entry : FieldEntry) : List Demand :=
  entry.type.toList.map .type ++ entry.modifiers.map .modifier

def ParameterEntry.demands (entry : ParameterEntry) : List Demand :=
  entry.type.toList.map .type ++ entry.modifiers.map .modifier

def MethodEntry.demands (entry : MethodEntry) : List Demand :=
  entry.returns.toList.map .type ++ entry.modifiers.map .modifier ++
    entry.generics.map .generic ++ entry.parameters.flatMap ParameterEntry.demands ++
    entry.throws.map .type

def ClassEntry.demands (entry : ClassEntry) : List Demand :=
  entry.modifiers.map .modifier ++ entry.generics.map .generic ++
    entry.supertype.toList.map .type ++ entry.interfaces.map .type ++
    entry.fields.flatMap FieldEntry.demands ++ entry.methods.flatMap MethodEntry.demands

def InterfaceEntry.demands (entry : InterfaceEntry) : List Demand :=
  entry.modifiers.map .modifier ++ entry.generics.map .generic ++ entry.supertypes.map .type ++
    entry.fields.flatMap FieldEntry.demands ++ entry.methods.flatMap MethodEntry.demands

def DeclarationEntry.demands : DeclarationEntry → List Demand
  | .classEntry entry => entry.demands
  | .interfaceEntry entry => entry.demands

def FileEntry.demands (entry : FileEntry) : List Demand :=
  entry.imports.map (fun imported => .type imported.type) ++
    entry.declarations.flatMap DeclarationEntry.demands

structure ImportEntry.Mirrors (entry : ImportEntry) (imported : Import) : Prop where
  type : parseType entry.type = .ok imported.type
  member : imported.member = entry.member

structure TagEntry.Mirrors (entry : TagEntry) (tag : JavadocTag) : Prop where
  name : tag.name = entry.name
  value : tag.value = entry.value
  text : tag.text = some (entry.text.getD "")

structure JavadocEntry.Mirrors (entry : JavadocEntry) (javadoc : Javadoc) : Prop where
  text : javadoc.text = entry.text
  tags : List.Forall₂ TagEntry.Mirrors entry.tags javadoc.tags

mutual
def StatementEntry.Mirrors : StatementEntry → Statement → Prop
  | .simple text, .simple text' => text' = text
  | .composite entries, .composite statements => StatementEntry.MirrorsAll entries statements
  | _, _ => False
def StatementEntry.MirrorsAll : List StatementEntry → List Statement → Prop
  | [], [] => True
  | entry :: entries, statement :: statements =>
    StatementEntry.Mirrors entry statement ∧ StatementEntry.MirrorsAll entries statements
  | _, _ => False
end

abbrev ReadsOptionalType : Option String → Option TypeRef → Prop :=
  Option.Rel fun expression t => parseType expression = .ok t

abbrev ReadsTypes : List String → List TypeRef → Prop :=
  List.Forall₂ fun expression t => parseType expression = .ok t

abbrev ReadsGenerics : List String → List Generic → Prop :=
  List.Forall₂ fun expression g => parseGeneric expression = .ok g

structure FieldEntry.Mirrors (entry : FieldEntry) (field : Field) : Prop where
  name : field.name = entry.name
  type : ReadsOptionalType entry.type field.type
  modifiers : ReadsModifiers entry.modifiers field.modifiers
  initializer : field.initializer = entry.initializer
  javadoc : Option.Rel JavadocEntry.Mirrors entry.javadoc field.javadoc

structure ParameterEntry.Mirrors (entry : ParameterEntry) (parameter : Parameter) : Prop where
  name : parameter.name = entry.name
  type : ReadsOptionalType entry.type parameter.type
  modifiers : ReadsModifiers entry.modifiers parameter.modifiers

structure MethodEntry.Mirrors (entry : MethodEntry) (method : Method) : Prop where
  name : method.name = entry.name
  returns : ∀ expression, entry.returns = some expression →
    parseType expression = .ok method.returns
  constructs : entry.returns = none → method.returns = .ofName ""
  modifiers : ReadsModifiers entry.modifiers method.modifiers
  generics : ReadsGenerics entry.generics method.generics
  parameters : List.Forall₂ ParameterEntry.Mirrors entry.parameters method.parameters
  throws : ReadsTypes entry.throws method.throws
  body : Option.Rel StatementEntry.MirrorsAll entry.body method.body
  javadoc : Option.Rel JavadocEntry.Mirrors entry.javadoc method.javadoc

structure ClassEntry.Mirrors (entry : ClassEntry) (decl : ClassDecl) : Prop where
  name : decl.name = entry.name
  modifiers : ReadsModifiers entry.modifiers decl.modifiers
  generics : ReadsGenerics entry.generics decl.generics
  supertype : ReadsOptionalType entry.supertype decl.supertype
  interfaces : ReadsTypes entry.interfaces decl.interfaces
  fields : List.Forall₂ FieldEntry.Mirrors entry.fields decl.fields
  methods : List.Forall₂ MethodEntry.Mirrors entry.methods decl.methods
  javadoc : Option.Rel JavadocEntry.Mirrors entry.javadoc decl.javadoc

structure InterfaceEntry.Mirrors (entry : InterfaceEntry) (decl : InterfaceDecl) : Prop where
  name : decl.name = entry.name
  modifiers : ReadsModifiers entry.modifiers decl.modifiers
  generics : ReadsGenerics entry.generics decl.generics
  supertypes : ReadsTypes entry.supertypes decl.supertypes
  fields : List.Forall₂ FieldEntry.Mirrors entry.fields decl.fields
  methods : List.Forall₂ MethodEntry.Mirrors entry.methods decl.methods
  javadoc : Option.Rel JavadocEntry.Mirrors entry.javadoc decl.javadoc

def DeclarationEntry.Mirrors : DeclarationEntry → Declaration → Prop
  | .classEntry entry, .classDecl decl => entry.Mirrors decl
  | .interfaceEntry entry, .interfaceDecl decl => entry.Mirrors decl
  | _, _ => False

structure FileEntry.Mirrors (entry : FileEntry) (file : SourceFile) : Prop where
  name : file.name = entry.name
  imports : ∃ imports : List Import,
    List.Forall₂ ImportEntry.Mirrors entry.imports imports ∧
      file.imports.toList = imports.eraseDups
  declarations : List.Forall₂ DeclarationEntry.Mirrors entry.declarations file.declarations

theorem TagEntry.mirrors_assemble (entry : TagEntry) : entry.Mirrors entry.assemble := by
  unfold TagEntry.assemble
  split
  · rename_i value given
    exact ⟨rfl, given.symm, rfl⟩
  · rename_i none
    exact ⟨rfl, none.symm, rfl⟩

theorem JavadocEntry.mirrors_assemble (entry : JavadocEntry) : entry.Mirrors entry.assemble := by
  refine ⟨rfl, ?_⟩
  apply List.forall₂_map_right_iff.mpr
  apply List.forall₂_same.mpr
  intro tag _
  exact tag.mirrors_assemble

theorem mirrors_optionalJavadoc (entry : Option JavadocEntry) :
    Option.Rel JavadocEntry.Mirrors entry (entry.map JavadocEntry.assemble) := by
  cases entry with
  | none => exact .none
  | some entry => exact .some entry.mirrors_assemble

mutual
theorem StatementEntry.mirrors_assemble : ∀ entry : StatementEntry, entry.Mirrors entry.assemble
  | .simple _ => rfl
  | .composite entries => StatementEntry.mirrorsAll_assembleAll entries
theorem StatementEntry.mirrorsAll_assembleAll :
    ∀ entries, StatementEntry.MirrorsAll entries (StatementEntry.assembleAll entries)
  | [] => trivial
  | entry :: rest =>
    ⟨StatementEntry.mirrors_assemble entry, StatementEntry.mirrorsAll_assembleAll rest⟩
end

theorem mirrors_optionalBody (body : Option (List StatementEntry)) :
    Option.Rel StatementEntry.MirrorsAll body (body.map StatementEntry.assembleAll) := by
  cases body with
  | none => exact .none
  | some entries => exact .some (StatementEntry.mirrorsAll_assembleAll entries)

theorem ImportEntry.reads (entry : ImportEntry) :
    Reads [.type entry.type] entry.Mirrors entry.assemble :=
  (reads_type entry.type).map fun _ type => ⟨type, rfl⟩

theorem FieldEntry.reads (entry : FieldEntry) :
    Reads entry.demands entry.Mirrors entry.assemble := by
  refine (reads_optionalType entry.type).bind fun type typeRead => ?_
  refine (reads_modifiers entry.modifiers).map fun modifiers modifiersRead => ?_
  exact
    { name := rfl
      type := typeRead
      modifiers := modifiersRead
      initializer := rfl
      javadoc := mirrors_optionalJavadoc entry.javadoc }

theorem ParameterEntry.reads (entry : ParameterEntry) :
    Reads entry.demands entry.Mirrors entry.assemble := by
  refine (reads_optionalType entry.type).bind fun type typeRead => ?_
  refine (reads_modifiers entry.modifiers).map fun modifiers modifiersRead => ?_
  exact ⟨rfl, typeRead, modifiersRead⟩

theorem MethodEntry.reads (entry : MethodEntry) :
    Reads entry.demands entry.Mirrors entry.assemble := by
  simp only [MethodEntry.demands, List.append_assoc]
  refine (reads_optionalType entry.returns).bind fun returns returnsRead => ?_
  refine (reads_modifiers entry.modifiers).bind fun modifiers modifiersRead => ?_
  refine (Reads.mapM_single reads_generic entry.generics).bind fun generics genericsRead => ?_
  refine (Reads.mapM ParameterEntry.reads entry.parameters).bind fun parameters mirrored => ?_
  refine (Reads.mapM_single reads_type entry.throws).map fun throws throwsRead => ?_
  exact
    { name := rfl
      returns := by
        rintro expression given
        rw [given] at returnsRead
        cases returnsRead with
        | some read => exact read
      constructs := by
        intro omitted
        rw [omitted] at returnsRead
        cases returnsRead
        rfl
      modifiers := modifiersRead
      generics := genericsRead
      parameters := mirrored
      throws := throwsRead
      body := mirrors_optionalBody entry.body
      javadoc := mirrors_optionalJavadoc entry.javadoc }

theorem ClassEntry.reads (entry : ClassEntry) :
    Reads entry.demands entry.Mirrors entry.assemble := by
  simp only [ClassEntry.demands, List.append_assoc]
  refine (reads_modifiers entry.modifiers).bind fun modifiers modifiersRead => ?_
  refine (Reads.mapM_single reads_generic entry.generics).bind fun generics genericsRead => ?_
  refine (reads_optionalType entry.supertype).bind fun supertype supertypeRead => ?_
  refine (Reads.mapM_single reads_type entry.interfaces).bind fun interfaces interfacesRead => ?_
  refine (Reads.mapM FieldEntry.reads entry.fields).bind fun fields fieldsMirrored => ?_
  refine (Reads.mapM MethodEntry.reads entry.methods).map fun methods methodsMirrored => ?_
  exact
    { name := rfl
      modifiers := modifiersRead
      generics := genericsRead
      supertype := supertypeRead
      interfaces := interfacesRead
      fields := fieldsMirrored
      methods := methodsMirrored
      javadoc := mirrors_optionalJavadoc entry.javadoc }

theorem InterfaceEntry.reads (entry : InterfaceEntry) :
    Reads entry.demands entry.Mirrors entry.assemble := by
  simp only [InterfaceEntry.demands, List.append_assoc]
  refine (reads_modifiers entry.modifiers).bind fun modifiers modifiersRead => ?_
  refine (Reads.mapM_single reads_generic entry.generics).bind fun generics genericsRead => ?_
  refine (Reads.mapM_single reads_type entry.supertypes).bind fun supertypes supertypesRead => ?_
  refine (Reads.mapM FieldEntry.reads entry.fields).bind fun fields fieldsMirrored => ?_
  refine (Reads.mapM MethodEntry.reads entry.methods).map fun methods methodsMirrored => ?_
  exact
    { name := rfl
      modifiers := modifiersRead
      generics := genericsRead
      supertypes := supertypesRead
      fields := fieldsMirrored
      methods := methodsMirrored
      javadoc := mirrors_optionalJavadoc entry.javadoc }

theorem DeclarationEntry.reads (entry : DeclarationEntry) :
    Reads entry.demands entry.Mirrors entry.assemble := by
  cases entry with
  | classEntry entry => exact entry.reads.map fun _ mirrored => mirrored
  | interfaceEntry entry => exact entry.reads.map fun _ mirrored => mirrored

theorem FileEntry.reads (entry : FileEntry) :
    Reads entry.demands entry.Mirrors entry.assemble := by
  refine (Reads.mapM_single ImportEntry.reads entry.imports).bind fun imports importsRead => ?_
  refine (Reads.mapM DeclarationEntry.reads entry.declarations).map fun declarations mirrored => ?_
  exact ⟨rfl, ⟨imports, importsRead, OrderedSet.toList_ofList imports⟩, mirrored⟩

/-- A document becomes files that mirror it, or fails for the first of its strings that cannot be
read, or for having no file. -/
theorem assemble_outcome (entries : List FileEntry) :
    ((∃ files, assemble entries = .ok files) ↔
      entries ≠ [] ∧ ∀ demand ∈ entries.flatMap FileEntry.demands, demand.Readable) ∧
    (∀ files, assemble entries = .ok files → List.Forall₂ FileEntry.Mirrors entries files) ∧
    ∀ failure, assemble entries = .error failure ↔
      entries = [] ∧ failure = .model "model document does not declare any `[[file]]`" ∨
        ∃ before demand after,
          entries.flatMap FileEntry.demands = before ++ demand :: after ∧
            (∀ earlier ∈ before, earlier.Readable) ∧ demand.Refused failure := by
  have reads := Reads.mapM FileEntry.reads entries
  cases entries with
  | nil =>
    have refused : assemble [] =
        .error (.model "model document does not declare any `[[file]]`") := rfl
    simp [refused, eq_comm]
  | cons entry rest =>
    have assembled : assemble (entry :: rest) = (entry :: rest).mapM FileEntry.assemble := rfl
    rw [assembled]
    refine ⟨?_, fun files => reads.value, fun failure => ?_⟩
    · rw [reads.ok_iff]
      exact (and_iff_right (List.cons_ne_nil entry rest)).symm
    · rw [reads.error_iff]
      simp only [reduceCtorEq, false_and, false_or]

def ledgerEntry : FileEntry where
  name := "acme/Ledger.java"
  declarations :=
    [.classEntry
      { name := "Ledger"
        fields := [{ name := "total", type := some "long", modifiers := ["pubic"] }]
        methods := [{ name := "book", returns := some "List<" }] }]

theorem assemble_outcome_ledgerEntry :
    (([ledgerEntry].flatMap FileEntry.demands =
        [.type "long"] ++ .modifier "pubic" :: [.type "List<"] ∧
      (∀ earlier ∈ [Demand.type "long"], earlier.Readable) ∧
      (Demand.modifier "pubic").Refused (.model "unknown modifier `pubic`")) ∧
    assemble [ledgerEntry] = .error (.model "unknown modifier `pubic`")) := by
  have readable : ∀ earlier ∈ [Demand.type "long"], earlier.Readable := by
    rw [List.forall_mem_singleton]
    exact ⟨.ofName "long", by rfl⟩
  have refused : (Demand.modifier "pubic").Refused (.model "unknown modifier `pubic`") := by
    refine ⟨?_, rfl⟩
    intro m
    cases m <;> decide
  have outcome := (assemble_outcome [ledgerEntry]).2.2 (.model "unknown modifier `pubic`")
  exact ⟨⟨rfl, readable, refused⟩,
    outcome.mpr (.inr ⟨[.type "long"], _, [.type "List<"], rfl, readable, refused⟩)⟩

end SourceModel.Document
