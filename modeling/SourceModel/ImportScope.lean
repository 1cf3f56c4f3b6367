import SourceModel.Model.SourceFile

namespace SourceModel

def implicitPackage : String := "java.lang"

def wildcardPackage? (name : String) : Option String :=
  match Text.splitLast? '.' name.toList with
  | some (package, ['*']) => some (String.ofList package)
  | _ => none

structure ImportScope where
  package : Option String := none
  imports : List String := []
  deriving DecidableEq, Repr, Inhabited

namespace ImportScope

def empty : ImportScope := {}

def addImport (scope : ImportScope) (name : String) : ImportScope :=
  { scope with imports := scope.imports ++ [name] }

def ofFile (file : SourceFile) : ImportScope where
  package := file.package?
  imports := (file.imports.toList.filter fun imported => !imported.isStatic).map
    fun imported => imported.type.name

/-- The type to which an explicit import gives the simple name: that of the first such import. -/
def owner? (scope : ImportScope) (simple : String) : Option String :=
  scope.imports.find? fun name => (wildcardPackage? name).isNone && simpleName name == simple

def importsPackage (scope : ImportScope) (package : String) : Bool :=
  scope.imports.any fun name => wildcardPackage? name == some package

def imports? (scope : ImportScope) (name : String) : Bool :=
  scope.owner? (simpleName name) == some name ||
    (packageName? name).any scope.importsPackage

/-- An explicit import gives the simple name of the type to another one. -/
def shadows (scope : ImportScope) (name : String) : Bool :=
  (scope.owner? (simpleName name)).any (· != name)

def sees (scope : ImportScope) (name : String) : Bool :=
  match packageName? name with
  | none => true
  | some package =>
    !scope.shadows name &&
      (package == implicitPackage || scope.package == some package || scope.imports? name)

def shortName (scope : ImportScope) (name : String) : String :=
  if scope.sees name then simpleName name else name

theorem shortName_of_owner_ne {scope : ImportScope} {name package other : String}
    (qualified : packageName? name = some package)
    (owner : scope.owner? (simpleName name) = some other) (ne : other ≠ name) :
    scope.shortName name = name := by
  simp [shortName, sees, qualified, shadows, owner, ne]

end ImportScope

end SourceModel
