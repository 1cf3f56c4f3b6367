import SourceModel.Generator

namespace SourceModel.View

def needsImport (package : Option String) (imported : Import) : Bool :=
  imported.isStatic ||
    imported.type.package?.any fun own => own != implicitPackage && some own != package

def importLine : View Import where
  model := "Import"
  ofNode?
    | .importLine imported => some imported
    | _ => none
  render _ imported :=
    pure (.present (match imported.member with
      | some member => "import static " ++ imported.type.name ++ "." ++ member ++ ";"
      | none => "import " ++ imported.type.name ++ ";"))

def file : View SourceFile where
  model := "File"
  ofNode?
    | .file file => some file
    | _ => none
  render g file := do
    let needed := file.imports.toList.filter (needsImport file.package?)
    let lines ← Rendering.sequence (g.onEach (needed.map .importLine))
    let imports := (OrderedSet.ofList (Fragment.texts lines)).toList
    let declarations ← (g.withScope (.ofFile file)).joinEach
      (file.declarations.map .ofDeclaration) g.formatting.blankLine
    let package := file.package?.map fun name => "package " ++ name ++ ";"
    let text := Fragment.join g.formatting.blankLine
      [.ofOption package, Fragment.join g.formatting.newline (imports.map .present), declarations]
    pure (text.map fun text => text ++ g.formatting.newline)

end SourceModel.View
