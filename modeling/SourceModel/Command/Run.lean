import SourceModel.Command.Arguments
import SourceModel.Command.Configuration
import SourceModel.Document.Assembly
import SourceModel.Storage.Writer

namespace SourceModel.Command

open Storage (Workspace Writer)

variable {m : Type → Type} [Monad m]

def generate (config : Config) (document : String) :
    Except Failure (Engine × List RenderedFile) := do
  let files ← Document.parse document
  let engine ← Engine.new config
  let rendered ← files.mapM engine.renderFile
  return (engine, rendered)

def preview (file : RenderedFile) : String := "// " ++ file.path ++ "\n" ++ file.text

def printAll (workspace : Workspace m) : List RenderedFile → m Unit
  | [] => pure ()
  | file :: rest => do
    workspace.print (preview file)
    printAll workspace rest

def run (workspace : Workspace m) (platform : Option String) (arguments : Arguments) :
    ExceptT Failure m Unit := do
  let config ← loadConfig workspace arguments.config platform
  let document ← filing (workspace.read arguments.input)
  let (engine, rendered) ← ExceptT.mk (pure (generate config document))
  if arguments.dryRun then ExceptT.lift (printAll workspace rendered)
  else
    let writer : Writer := ⟨arguments.output, arguments.overwrite⟩
    let _ ← filing (writer.writeAll workspace rendered).run
  ExceptT.mk (pure engine.stop.1)

end SourceModel.Command
