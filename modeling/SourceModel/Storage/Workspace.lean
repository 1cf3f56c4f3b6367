import SourceModel.Storage.FileSystem

namespace SourceModel.Storage

structure Workspace (m : Type → Type) where
  contains : String → m Bool
  read : String → m (Except FileError String)
  createDirectories : String → m (Except FileError Unit)
  write : String → String → m (Except FileError Unit)
  print : String → m Unit

structure World where
  files : FileSystem
  printed : String := ""

def World.workspace : Workspace (StateM World) where
  contains path := fun world => (world.files.contains path, world)
  read path := fun world => (world.files.read path, world)
  createDirectories path := fun world =>
    match world.files.createDirectories path with
    | (outcome, files) => (outcome, { world with files })
  write path text := fun world =>
    match world.files.write path text with
    | .ok files => (.ok (), { world with files })
    | .error e => (.error e, world)
  print text := fun world => ((), { world with printed := world.printed ++ text })

end SourceModel.Storage
