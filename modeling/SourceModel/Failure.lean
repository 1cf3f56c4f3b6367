import SourceModel.Diagnostic.Basic
import SourceModel.Lifecycle
import SourceModel.Rendering

namespace SourceModel

inductive FileErrorKind
  | notFound
  | alreadyExists
  | isADirectory
  | notADirectory
  | invalidInput
  | invalidData
  | invalidFilename
  | other
  deriving DecidableEq, Repr, Inhabited

def FileErrorKind.description : FileErrorKind → String
  | notFound => "entity not found"
  | alreadyExists => "entity already exists"
  | isADirectory => "is a directory"
  | notADirectory => "not a directory"
  | invalidInput => "invalid input parameter"
  | invalidData => "invalid data"
  | invalidFilename => "invalid filename"
  | other => "other error"

structure FileError where
  kind : FileErrorKind
  message : String
  deriving DecidableEq, Repr

def FileError.of (kind : FileErrorKind) : FileError := ⟨kind, kind.description⟩

inductive Failure
  | io (error : FileError)
  | parse (error : ParseError) (source : String)
  | render (error : RenderError)
  | lifecycle (error : LifecycleError)
  | config (message : String)
  | model (message : String)
  deriving DecidableEq

namespace Failure

def message : Failure → String
  | io error => "I/O error: " ++ error.message
  | parse error _ => error.message
  | render error => "Render error: " ++ error.message
  | lifecycle error => "Lifecycle error: " ++ error.message
  | config message => "Configuration error: " ++ message
  | model message => "Model error: " ++ message

def cause? : Failure → Option String
  | io error => some error.message
  | render error => some error.message
  | lifecycle error => some error.message
  | _ => none

def code? : Failure → Option String
  | io _ => some "stencil::io"
  | parse _ _ => none
  | render _ => some "stencil::render"
  | lifecycle _ => some "stencil::lifecycle"
  | config _ => some "stencil::config"
  | model _ => some "stencil::model"

def hint? : Failure → Option String
  | render (.noRenderer _ _) =>
    some "register a renderer for this kind or one of its capabilities"
  | render (.malformedModel _ _) => some "fill in the missing part of the model document"
  | lifecycle (.invalidTransition _ _) =>
    some "an engine goes through initialize, load, resolve and start exactly once"
  | config _ => some "check the file passed with --config or stencil/config.toml"
  | _ => none

end Failure

structure Report where
  display : String
  cause : Option String
  code : Option String
  help : Option String
  source : Option String
  labels : Option (List Label)
  deriving DecidableEq

def Diagnostic.report (diagnostic : Diagnostic) (source : String) : Report where
  display := diagnostic.message
  cause := none
  code := diagnostic.code.map ErrorCode.name
  help := diagnostic.help
  source := some source
  labels := if diagnostic.labels.isEmpty then none else some diagnostic.labels

def Failure.reports : Failure → List Report
  | .parse error source => error.diagnostics.map fun diagnostic => diagnostic.report source
  | failure =>
    [{ display := failure.message
       cause := failure.cause?
       code := failure.code?
       help := failure.hint?
       source := none
       labels := none }]

end SourceModel
