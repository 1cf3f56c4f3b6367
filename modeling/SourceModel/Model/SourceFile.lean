import SourceModel.Model.Declaration
import SourceModel.Text.Joined

namespace SourceModel

structure Import where
  type : TypeRef
  member : Option String := none
  deriving DecidableEq, Inhabited

def Import.isStatic (imported : Import) : Bool := imported.member.isSome

structure SourceFile where
  name : String
  imports : OrderedSet Import := ∅
  declarations : List Declaration := []
  deriving Inhabited

namespace SourceFile

/-- The directories of a path that are not empty; a backslash separates like a slash. -/
def directories (name : String) : List String :=
  match Text.splitLast? '/' (name.toList.map fun c => if c = '\\' then '/' else c) with
  | none => []
  | some (directory, _) =>
    ((Text.splitAll '/' directory).filter fun segment => !segment.isEmpty).map String.ofList

def package? (file : SourceFile) : Option String :=
  let package := Text.joinWith "." (directories file.name)
  if package = "" then none else some package

def addImport (file : SourceFile) (imported : Import) : SourceFile × Bool :=
  ({ file with imports := file.imports.insert imported }, !file.imports.contains imported)

end SourceFile

end SourceModel
