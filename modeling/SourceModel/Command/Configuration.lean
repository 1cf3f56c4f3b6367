import SourceModel.Dialect
import SourceModel.Document.Settings
import SourceModel.Storage.Workspace

namespace SourceModel.Command

open Storage (Workspace)

variable {m : Type → Type} [Monad m]

def projectConfig : String := "stencil/config.toml"

def filing {α : Type} (operation : m (Except FileError α)) : ExceptT Failure m α :=
  ExceptT.mk (do return (← operation).mapError Failure.io)

def validated (config : Config) : Except Failure Config :=
  if (Dialect.find? config.dialect).isSome then .ok config
  else .error (.config (Dialect.unknownMessage config.dialect))

def configOf (path text : String) : Except Failure Config :=
  match Document.parseConfig text with
  | some config => validated config
  | none => .error (.config ("failed to parse `" ++ path ++ "`"))

def loadConfigFile (workspace : Workspace m) (path : String) : ExceptT Failure m Config := do
  if ← ExceptT.lift (workspace.contains path) then
    let text ← filing (workspace.read path)
    ExceptT.mk (pure (configOf path text))
  else throw (.config ("missing configuration file: " ++ path))

def loadFirstConfig (workspace : Workspace m) : List String → ExceptT Failure m Config
  | [] => pure .standard
  | path :: rest => do
    if ← ExceptT.lift (workspace.contains path) then loadConfigFile workspace path
    else loadFirstConfig workspace rest

def loadConfig (workspace : Workspace m) (explicit platform : Option String) :
    ExceptT Failure m Config :=
  match explicit with
  | some path => loadConfigFile workspace path
  | none => loadFirstConfig workspace (projectConfig :: platform.toList)

end SourceModel.Command
