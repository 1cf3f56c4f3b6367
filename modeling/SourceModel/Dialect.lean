import SourceModel.Registry
import SourceModel.View.Declarations
import SourceModel.View.Files
import SourceModel.View.Statements

namespace SourceModel

structure Dialect where
  name : String
  renderers : List (NodeKind × Renderer)

namespace Dialect

def java : Dialect where
  name := "java"
  renderers :=
    [(.file, View.file.renderer), (.importLine, View.importLine.renderer),
     (.classDecl, View.classDecl.renderer), (.interfaceDecl, View.interfaceDecl.renderer),
     (.method, View.method.renderer), (.field, View.field.renderer),
     (.parameter, View.parameter.renderer), (.type, View.type.renderer),
     (.generic, View.generic.renderer), (.javadoc, View.javadoc.renderer),
     (.javadocTag, View.javadocTag.renderer), (.statement, View.statement.renderer)]

def builtIn : List Dialect := [java]

def find? (name : String) : Option Dialect := builtIn.find? fun dialect => dialect.name = name

def unknownMessage (name : String) : String :=
  "unknown dialect `" ++ name ++ "` (available: " ++
    Text.joinWith ", " (builtIn.map Dialect.name) ++ ")"

def install (dialect : Dialect) (registry : Registry) : Registry :=
  registry.registerAll dialect.renderers

def registry (dialect : Dialect) : Registry := dialect.install (.empty dialect.name)

end Dialect

end SourceModel
