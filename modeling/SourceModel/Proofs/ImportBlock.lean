import SourceModel.Proofs.Outcome
import SourceModel.Proofs.ShortNames

namespace SourceModel

def importText (imported : Import) : String :=
  match imported.member with
  | some member => "import static " ++ imported.type.name ++ "." ++ member ++ ";"
  | none => "import " ++ imported.type.name ++ ";"

def importBlock (file : SourceFile) : List String :=
  (OrderedSet.ofList
    ((file.imports.toList.filter (View.needsImport file.package?)).map importText)).toList

def fileText (formatting : Formatting) (file : SourceFile) (declarations : Fragment) : Fragment :=
  let package := file.package?.map fun name => "package " ++ name ++ ";"
  (Fragment.join formatting.blankLine
    [.ofOption package, Fragment.join formatting.newline ((importBlock file).map .present),
      declarations]).map fun text => text ++ formatting.newline

theorem texts_map_present (texts : List String) :
    Fragment.texts (texts.map .present) = texts := by
  induction texts with
  | nil => rfl
  | cons text rest ih => simpa [Fragment.texts, Fragment.text?] using ih

theorem outcome_importLines {g : Generator}
    (written : ∀ imported,
      (g.on (.importLine imported)).outcome = .ok (.present (importText imported)))
    (imports : List Import) :
    (Rendering.sequence (g.onEach (imports.map .importLine))).outcome =
      .ok ((imports.map importText).map .present) := by
  rw [Generator.onEach, List.map_map, List.map_map]
  exact Rendering.outcome_sequence_ok fun imported _ => written imported

theorem outcome_file {g : Generator}
    (written : ∀ imported,
      (g.on (.importLine imported)).outcome = .ok (.present (importText imported)))
    (file : SourceFile) :
    (View.file.render g file).outcome =
      ((g.withScope (.ofFile file)).joinEach (file.declarations.map .ofDeclaration)
        g.formatting.blankLine).outcome.map (fileText g.formatting file) := by
  have lines := outcome_importLines written
    (file.imports.toList.filter (View.needsImport file.package?))
  simp only [View.file]
  rw [Rendering.outcome_bind_ok lines, Rendering.outcome_bind, texts_map_present]
  rfl

theorem outcome_dispatch_importLine (formatting : Formatting) (depth : Nat) (scope : ImportScope)
    (imported : Import) :
    (Dialect.java.registry.dispatch formatting (depth + 1) scope (.importLine imported)).outcome =
      .ok (.present (importText imported)) := by
  have found : Dialect.java.registry.lookup (.importLine imported) =
      .ok View.importLine.renderer := rfl
  rw [Registry.outcome_dispatch_succ found]
  rfl

theorem outcome_on_file (formatting : Formatting) (scope : ImportScope) (file : SourceFile)
    {fragment : Fragment}
    (rendered : ((Dialect.java.registry.generator formatting scope).on (.file file)).outcome =
      .ok fragment) :
    ∃ declarations, fragment = fileText formatting file declarations := by
  have found : Dialect.java.registry.lookup (.file file) = .ok View.file.renderer := rfl
  obtain ⟨depth, deep⟩ : ∃ depth, (Node.file file).height + Dialect.java.registry.reach =
      depth + 2 := by
    refine ⟨(Node.file file).height + Dialect.java.registry.reach - 2, ?_⟩
    simp only [Node.height, SourceFile.height]
    omega
  let g : Generator :=
    ⟨formatting, scope, Dialect.java.registry.dispatch formatting (depth + 1)⟩
  have written : ∀ imported,
      (g.on (.importLine imported)).outcome = .ok (.present (importText imported)) :=
    outcome_dispatch_importLine formatting depth scope
  simp only [Generator.on, Registry.generator, deep] at rendered
  rw [Registry.outcome_dispatch_succ found] at rendered
  change (View.file.render g file).outcome = .ok fragment at rendered
  rw [outcome_file written] at rendered
  cases ended : ((g.withScope (.ofFile file)).joinEach (file.declarations.map .ofDeclaration)
      g.formatting.blankLine).outcome with
  | error e =>
    rw [ended] at rendered
    cases rendered
  | ok declarations =>
    rw [ended] at rendered
    exact ⟨declarations, (Except.ok.inj rendered).symm⟩

theorem importText_mem_importBlock {file : SourceFile} {imported : Import}
    (mem : imported ∈ file.imports.toList)
    (needed : View.needsImport file.package? imported = true) :
    importText imported ∈ importBlock file := by
  rw [importBlock, OrderedSet.mem_toList_ofList]
  exact List.mem_map_of_mem (List.mem_filter.mpr ⟨mem, needed⟩)

theorem line_mem_importBlock {file : SourceFile} {name package : String}
    (mem : name ∈ (ImportScope.ofFile file).imports)
    (qualified : packageName? name = some package) (explicit : package ≠ implicitPackage)
    (foreign : file.package? ≠ some package) :
    "import " ++ name ++ ";" ∈ importBlock file := by
  obtain ⟨imported, kept, rfl⟩ := List.mem_map.mp mem
  obtain ⟨present, plain⟩ := List.mem_filter.mp kept
  have member : imported.member = none := by
    simpa [Import.isStatic] using plain
  have needed : View.needsImport file.package? imported = true := by
    simp [View.needsImport, TypeRef.package?, qualified, explicit, foreign.symm]
  have line := importText_mem_importBlock present needed
  rwa [importText, member] at line

/-- A type that a file writes by its simple name is visible without an import, in the package that
the file declares, or by a line of its import block. -/
theorem shortName_covered (formatting : Formatting) (scope : ImportScope) (file : SourceFile) :
    (∀ fragment,
      ((Dialect.java.registry.generator formatting scope).on (.file file)).outcome =
        .ok fragment → ∃ declarations, fragment = fileText formatting file declarations) ∧
    ∀ name package, packageName? name = some package →
      (ImportScope.ofFile file).shortName name ≠ name →
        package = implicitPackage ∨ file.package? = some package ∨
          "import " ++ name ++ ";" ∈ importBlock file ∨
          "import " ++ package ++ ".*;" ∈ importBlock file := by
  refine ⟨fun fragment rendered => outcome_on_file formatting scope file rendered, ?_⟩
  intro name package qualified short
  by_cases explicit : package = implicitPackage
  · exact .inl explicit
  by_cases foreign : file.package? = some package
  · exact .inr (.inl foreign)
  have seen : (ImportScope.ofFile file).sees name = true := by
    by_cases seen : (ImportScope.ofFile file).sees name = true
    · exact seen
    · exact absurd (ImportScope.shortName_of_not_sees seen) short
  refine .inr (.inr ?_)
  cases owned : (ImportScope.ofFile file).owner? (simpleName name) with
  | some owner =>
    -- The owner of the simple name is the type itself, which its own line imports.
    obtain rfl := (ImportScope.sees_iff_owner qualified owned).mp seen
    have mem := List.mem_of_find?_eq_some owned
    exact .inl (line_mem_importBlock mem qualified explicit foreign)
  | none =>
    rcases (ImportScope.sees_iff_opens qualified owned).mp seen with implicit | own | mem
    · exact absurd implicit explicit
    · exact absurd own foreign
    · have line := line_mem_importBlock mem (packageName?_wildcard package) explicit foreign
      have text : "import " ++ (package ++ ".*") ++ ";" = "import " ++ package ++ ".*;" := by
        simp [← String.toList_inj]
      exact .inr (text ▸ line)

def wildcardFile : SourceFile where
  name := "com/acme/App.java"
  imports := .ofList [⟨.ofName "java.util.*", none⟩]

theorem shortName_covered_wildcardFile :
    (((Dialect.java.registry.generator .standard .empty).on (.file wildcardFile)).outcome =
        .ok (.present "package com.acme;\n\nimport java.util.*;\n") ∧
      ∃ declarations, .present "package com.acme;\n\nimport java.util.*;\n" =
        fileText .standard wildcardFile declarations) ∧
    packageName? "java.util.Map" = some "java.util" ∧
      (ImportScope.ofFile wildcardFile).shortName "java.util.Map" ≠ "java.util.Map" ∧
      ("java.util" = implicitPackage ∨ wildcardFile.package? = some "java.util" ∨
        "import " ++ "java.util.Map" ++ ";" ∈ importBlock wildcardFile ∨
        "import " ++ "java.util" ++ ".*;" ∈ importBlock wildcardFile) := by
  have covered := shortName_covered .standard .empty wildcardFile
  have rendered :
      ((Dialect.java.registry.generator .standard .empty).on (.file wildcardFile)).outcome =
        .ok (.present "package com.acme;\n\nimport java.util.*;\n") := by
    rfl
  have qualified : packageName? "java.util.Map" = some "java.util" := by decide
  have short : (ImportScope.ofFile wildcardFile).shortName "java.util.Map" ≠ "java.util.Map" := by
    decide +kernel
  exact ⟨⟨rendered, covered.1 _ rendered⟩, qualified, short,
    covered.2 "java.util.Map" "java.util" qualified short⟩

end SourceModel
