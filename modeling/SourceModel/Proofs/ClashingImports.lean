import SourceModel.Proofs.ImportBlock

namespace SourceModel

def typeLine (name : String) : String := "import " ++ name ++ ";"

/-- The line of an import of that name imports one type: it is neither a static one nor that of
a whole package. -/
def NamesType (name : String) : Prop :=
  wildcardPackage? name = none ∧ ¬ "static ".toList <+: name.toList

instance (name : String) : Decidable (NamesType name) := inferInstanceAs (Decidable (_ ∧ _))

namespace ImportScope
variable {scope : ImportScope} {name package : String}

/-- The type is imported, and no explicit import before it has its simple name. -/
def ImportsFirst (scope : ImportScope) (name : String) : Prop :=
  ∃ before after, scope.imports = before ++ name :: after ∧
    ∀ other ∈ before, wildcardPackage? other = none → simpleName other ≠ simpleName name

def ClashFree (scope : ImportScope) : Prop :=
  ∀ a ∈ scope.imports, ∀ b ∈ scope.imports, wildcardPackage? a = none →
    wildcardPackage? b = none → simpleName a = simpleName b → a = b

theorem owner?_eq_some_iff (explicit : wildcardPackage? name = none) :
    scope.owner? (simpleName name) = some name ↔ scope.ImportsFirst name := by
  have passed : ∀ other,
      (!((wildcardPackage? other).isNone && simpleName other == simpleName name)) = true ↔
        (wildcardPackage? other = none → simpleName other ≠ simpleName name) := by
    intro other
    cases wildcardPackage? other <;> simp
  simp only [owner?, List.find?_eq_some_iff_append, passed]
  simp [explicit, ImportsFirst]

theorem exists_owner (explicit : wildcardPackage? name = none) (mem : name ∈ scope.imports) :
    ∃ owner ∈ scope.imports, wildcardPackage? owner = none ∧ simpleName owner = simpleName name ∧
      scope.owner? (simpleName name) = some owner := by
  cases owned : scope.owner? (simpleName name) with
  | none =>
    have all := List.find?_eq_none.mp owned name mem
    simp [explicit] at all
  | some owner =>
    have found := List.find?_some owned
    rw [Bool.and_eq_true, Option.isNone_iff_eq_none, beq_iff_eq] at found
    exact ⟨owner, List.mem_of_find?_eq_some owned, found.1, found.2, rfl⟩

theorem imports?_iff (explicit : wildcardPackage? name = none)
    (qualified : packageName? name = some package) :
    scope.imports? name = true ↔
      scope.ImportsFirst name ∨ package ++ ".*" ∈ scope.imports := by
  rw [← owner?_eq_some_iff explicit, ← importsPackage_iff]
  simp [imports?, qualified]

theorem shortName_of_mem_imports (explicit : wildcardPackage? name = none)
    (mem : name ∈ scope.imports) (qualified : packageName? name = some package) :
    scope.ImportsFirst name ∧ scope.shortName name = simpleName name ∨
      ¬ scope.ImportsFirst name ∧ scope.shortName name = name := by
  obtain ⟨owner, -, -, -, owned⟩ := exists_owner explicit mem
  have seen := sees_iff_owner qualified owned
  have first : scope.ImportsFirst name ↔ owner = name := by
    rw [← owner?_eq_some_iff explicit, owned, Option.some.injEq]
  by_cases own : owner = name
  · exact .inl ⟨first.mpr own, shortName_of_sees (seen.mpr own)⟩
  · exact .inr ⟨fun h => own (first.mp h), shortName_of_owner_ne qualified owned own⟩

theorem ClashFree.importsFirst (free : scope.ClashFree) (explicit : wildcardPackage? name = none)
    (mem : name ∈ scope.imports) : scope.ImportsFirst name := by
  obtain ⟨owner, known, plain, same, owned⟩ := exists_owner explicit mem
  obtain rfl := free owner known name mem plain explicit same
  exact (owner?_eq_some_iff explicit).mp owned

end ImportScope

theorem typeLine_injective {a b : String} (eq : typeLine a = typeLine b) : a = b := by
  simpa [typeLine, ← String.toList_inj] using eq

theorem importText_eq_typeLine {imported : Import} {name : String} (type : NamesType name)
    (eq : importText imported = typeLine name) :
    imported.member = none ∧ imported.type.name = name := by
  rw [importText] at eq
  split at eq
  · -- a static import has the keyword where the name stands
    rename_i member _
    have shifted : "static ".toList ++ (imported.type.name ++ "." ++ member).toList ++ [';'] =
        name.toList ++ [';'] := by
      simpa [typeLine, ← String.toList_inj] using eq
    exact absurd ⟨_, List.append_cancel_right shifted⟩ type.2
  · rename_i plain
    exact ⟨plain, typeLine_injective eq⟩

theorem typeLine_mem_importBlock_iff {file : SourceFile} {name : String} (type : NamesType name) :
    typeLine name ∈ importBlock file ↔
      name ∈ (ImportScope.ofFile file).imports ∧ ∃ package, packageName? name = some package ∧
        package ≠ implicitPackage ∧ file.package? ≠ some package := by
  constructor
  · intro line
    rw [importBlock, OrderedSet.mem_toList_ofList] at line
    obtain ⟨imported, kept, text⟩ := List.mem_map.mp line
    obtain ⟨present, needed⟩ := List.mem_filter.mp kept
    obtain ⟨plain, rfl⟩ := importText_eq_typeLine type text
    have listed : imported.type.name ∈ (ImportScope.ofFile file).imports :=
      List.mem_map_of_mem (List.mem_filter.mpr ⟨present, by simp [Import.isStatic, plain]⟩)
    obtain ⟨package, qualified, foreign⟩ : ∃ package,
        packageName? imported.type.name = some package ∧ package ≠ implicitPackage ∧
          some package ≠ file.package? := by
      simpa [View.needsImport, Import.isStatic, plain, TypeRef.package?, Option.any_eq_true]
        using needed
    exact ⟨listed, package, qualified, foreign.1, foreign.2.symm⟩
  · rintro ⟨mem, package, qualified, explicit, foreign⟩
    exact line_mem_importBlock mem qualified explicit foreign

/-- Every explicit import of a type that is not visible anyway has one line in the block. The scope
counts such a type as imported if it is the first of its simple name or all of its package is
imported, and writes it short if it is the first; different types are never written alike. -/
theorem typeLine_and_shortName (formatting : Formatting) (scope : ImportScope)
    (file : SourceFile) :
    (∀ fragment,
      ((Dialect.java.registry.generator formatting scope).on (.file file)).outcome =
        .ok fragment → ∃ declarations, fragment = fileText formatting file declarations) ∧
    (importBlock file).Nodup ∧
    ∀ name, NamesType name →
      (typeLine name ∈ importBlock file ↔
        name ∈ (ImportScope.ofFile file).imports ∧ ∃ package, packageName? name = some package ∧
          package ≠ implicitPackage ∧ file.package? ≠ some package) ∧
      (typeLine name ∈ importBlock file →
        ((ImportScope.ofFile file).imports? name = true ↔
          (ImportScope.ofFile file).ImportsFirst name ∨ ∃ package,
            packageName? name = some package ∧
              package ++ ".*" ∈ (ImportScope.ofFile file).imports) ∧
        ((ImportScope.ofFile file).ImportsFirst name ∧
            (ImportScope.ofFile file).shortName name = simpleName name ∨
          ¬ (ImportScope.ofFile file).ImportsFirst name ∧
            (ImportScope.ofFile file).shortName name = name) ∧
        ((ImportScope.ofFile file).ClashFree → (ImportScope.ofFile file).imports? name = true) ∧
        ∀ other, NamesType other → typeLine other ∈ importBlock file → other ≠ name →
          (ImportScope.ofFile file).shortName other ≠ (ImportScope.ofFile file).shortName name) := by
  refine ⟨fun fragment rendered => outcome_on_file formatting scope file rendered,
    OrderedSet.nodup _, fun name type => ⟨typeLine_mem_importBlock_iff type, fun line => ?_⟩⟩
  obtain ⟨mem, package, qualified, -, -⟩ := (typeLine_mem_importBlock_iff type).mp line
  have imported : (ImportScope.ofFile file).imports? name = true ↔ _ :=
    ImportScope.imports?_iff type.1 qualified
  refine ⟨?_, ImportScope.shortName_of_mem_imports type.1 mem qualified, fun free => ?_, ?_⟩
  · rw [imported, qualified]
    simp
  · exact imported.mpr (.inl (free.importsFirst type.1 mem))
  · intro other otherType otherLine ne alike
    obtain ⟨-, otherPackage, otherQualified, -, -⟩ :=
      (typeLine_mem_importBlock_iff otherType).mp otherLine
    obtain ⟨same, unowned, -, -⟩ :=
      (ImportScope.shortName_eq_iff otherQualified qualified ne).mp alike
    -- Types that are written alike have a simple name without an owner, but this one is imported.
    obtain ⟨owner, -, -, -, owned⟩ := ImportScope.exists_owner type.1 mem
    rw [same, owned] at unowned
    cases unowned

def twoListsFile : SourceFile where
  name := "com/acme/App.java"
  imports := .ofList [⟨.ofName "java.util.List", none⟩, ⟨.ofName "java.awt.List", none⟩]

def listAndMapFile : SourceFile where
  name := "com/acme/App.java"
  imports := .ofList [⟨.ofName "java.util.List", none⟩, ⟨.ofName "java.util.Map", none⟩]

theorem outcome_twoListsFile :
    ((Dialect.java.registry.generator .standard .empty).on (.file twoListsFile)).outcome =
      .ok (.present "package com.acme;\n\nimport java.util.List;\nimport java.awt.List;\n") := by
  with_unfolding_all rfl

theorem typeLine_and_shortName_lists :
    (((Dialect.java.registry.generator .standard .empty).on (.file twoListsFile)).outcome =
        .ok (.present "package com.acme;\n\nimport java.util.List;\nimport java.awt.List;\n") ∧
      ∃ declarations,
        .present "package com.acme;\n\nimport java.util.List;\nimport java.awt.List;\n" =
          fileText .standard twoListsFile declarations) ∧
    (NamesType "java.util.List" ∧ NamesType "java.awt.List" ∧ "java.awt.List" ≠ "java.util.List" ∧
      typeLine "java.util.List" ∈ importBlock twoListsFile ∧
      typeLine "java.awt.List" ∈ importBlock twoListsFile ∧
      (ImportScope.ofFile twoListsFile).shortName "java.awt.List" ≠
        (ImportScope.ofFile twoListsFile).shortName "java.util.List") ∧
    (ImportScope.ofFile listAndMapFile).ClashFree ∧ NamesType "java.util.Map" ∧
      typeLine "java.util.Map" ∈ importBlock listAndMapFile ∧
      (ImportScope.ofFile listAndMapFile).imports? "java.util.Map" = true := by
  obtain ⟨written, -, apart⟩ := typeLine_and_shortName .standard .empty twoListsFile
  obtain ⟨-, -, agree⟩ := typeLine_and_shortName .standard .empty listAndMapFile
  have util : NamesType "java.util.List" := by decide
  have awt : NamesType "java.awt.List" := by decide
  have map : NamesType "java.util.Map" := by decide
  have utilLine : typeLine "java.util.List" ∈ importBlock twoListsFile := by decide +kernel
  have awtLine : typeLine "java.awt.List" ∈ importBlock twoListsFile := by decide +kernel
  have mapLine : typeLine "java.util.Map" ∈ importBlock listAndMapFile := by decide +kernel
  have free : (ImportScope.ofFile listAndMapFile).ClashFree := by
    unfold ImportScope.ClashFree
    decide +kernel
  have ne : "java.awt.List" ≠ "java.util.List" := by decide
  exact ⟨⟨outcome_twoListsFile, written _ outcome_twoListsFile⟩,
    ⟨util, awt, ne, utilLine, awtLine, ((apart _ util).2 utilLine).2.2.2 _ awt awtLine ne⟩,
    free, map, mapLine, ((agree _ map).2 mapLine).2.2.1 free⟩

theorem typeLines_of_two_lists :
    NamesType "java.util.List" ∧ NamesType "java.awt.List" ∧
      simpleName "java.util.List" = simpleName "java.awt.List" ∧
      typeLine "java.util.List" ∈ importBlock twoListsFile ∧
      typeLine "java.awt.List" ∈ importBlock twoListsFile ∧
      (ImportScope.ofFile twoListsFile).imports? "java.awt.List" = false ∧
      ((Dialect.java.registry.generator .standard .empty).on (.file twoListsFile)).outcome =
        .ok (.present "package com.acme;\n\nimport java.util.List;\nimport java.awt.List;\n") := by
  refine ⟨by decide, by decide, by decide, ?_, ?_, ?_, outcome_twoListsFile⟩
  all_goals decide +kernel

end SourceModel
