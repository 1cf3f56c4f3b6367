import SourceModel.Command.Run

namespace SourceModel.Command

open Storage (Workspace)

def fileErrorOf (e : IO.Error) : FileError :=
  let kind : FileErrorKind := match e with
    | .noFileOrDirectory .. => .notFound
    | .alreadyExists .. => .alreadyExists
    | .inappropriateType .. => .isADirectory
    | .invalidArgument .. => .invalidInput
    | _ => .other
  ⟨kind, toString e⟩

def attempt {α : Type} (operation : IO α) : IO (Except FileError α) := do
  try return .ok (← operation) catch e => return .error (fileErrorOf e)

def readText (path : String) : IO (Except FileError String) := do
  match ← attempt (IO.FS.readBinFile path) with
  | .error e => return .error e
  | .ok bytes =>
    match String.fromUTF8? bytes with
    | some text => return .ok text
    | none => return .error (.of .invalidData)

def machine : Workspace IO where
  contains path := do return (← attempt (IO.FS.realPath path)).isOk
  read := readText
  createDirectories path := attempt (if path = "" then pure () else IO.FS.createDirAll path)
  write path text := attempt (IO.FS.writeFile path text)
  print := IO.print

def platformConfig? : IO (Option String) := do
  let named := (← IO.getEnv "XDG_CONFIG_HOME").filter fun path => path.startsWith "/"
  let home := (← IO.getEnv "HOME").filter fun path => path != ""
  let directory := named <|> home.map (Storage.joinPath · ".config")
  return directory.map (Storage.joinPath · projectConfig)

def usage : String :=
  "usage: stencil [-o DIRECTORY] [-c FILE] [--overwrite] [--dry-run] [--log-level LEVEL] INPUT"

def perform (arguments : Arguments) : IO UInt32 := do
  match ← (run machine (← platformConfig?) arguments).run with
  | .ok () => return 0
  | .error failure =>
    for report in failure.reports do
      IO.eprintln report.display
    return 1

end SourceModel.Command

open SourceModel.Command in
def main (arguments : List String) : IO UInt32 := do
  match Arguments.parse arguments with
  | .ok parsed => perform parsed
  | .error .helpRequested =>
    IO.println usage
    return 0
  | .error .versionRequested =>
    IO.println "stencil"
    return 0
  | .error _ =>
    IO.eprintln usage
    return 2
