import SourceModel.Collection.OrderedMap
import SourceModel.Failure
import SourceModel.Storage.Path

namespace SourceModel.Storage

inductive Content
  | text (text : String)
  | binary (bytes : List UInt8)
  deriving DecidableEq, Repr, Inhabited

inductive Entry
  | directory
  | file (content : Content)
  deriving DecidableEq, Repr, Inhabited

abbrev Location := List String

structure FileSystem where
  entries : OrderedMap Location Entry := ∅
  workingDirectory : Location := []

def nameLimit : Nat := 255

def pathLimit : Nat := 4096

def checkPath (path : String) : Except FileError Unit :=
  if path.toList.contains '\x00' then
    .error ⟨.invalidInput, "file name contained an unexpected NUL byte"⟩
  else if path = "" then .error (.of .notFound)
  else if pathLimit ≤ path.utf8ByteSize then .error (.of .invalidFilename)
  else .ok ()

namespace FileSystem

def at? (fs : FileSystem) (location : Location) : Option Entry :=
  if location = [] then some .directory else fs.entries.get? location

def put (fs : FileSystem) (location : Location) (entry : Entry) : FileSystem :=
  { fs with entries := fs.entries.insert location entry }

theorem at?_put (fs : FileSystem) (location other : Location) (entry : Entry) :
    (fs.put location entry).at? other =
      if other = [] then some .directory
      else if location = other then some entry else fs.at? other := by
  unfold at? put
  split
  · rfl
  · exact OrderedMap.get?_insert _ _ _ _

def walk (fs : FileSystem) : Location → List Component → Except FileError Location
  | location, [] => .ok location
  | location, component :: rest =>
    match fs.at? location with
    | none => .error (.of .notFound)
    | some (.file _) => .error (.of .notADirectory)
    | some .directory =>
      match component with
      | .root => fs.walk [] rest
      | .here => fs.walk location rest
      | .up => fs.walk location.dropLast rest
      | .name name =>
        if nameLimit < name.utf8ByteSize then .error (.of .invalidFilename)
        else fs.walk (location ++ [name]) rest

def locate (fs : FileSystem) (path : String) : Except FileError Location :=
  match checkPath path with
  | .error e => .error e
  | .ok () => fs.walk fs.workingDirectory (components path)

def lookup (fs : FileSystem) (path : String) : Except FileError Entry :=
  match fs.locate path with
  | .error e => .error e
  | .ok location =>
    match fs.at? location with
    | none => .error (.of .notFound)
    | some (.file content) =>
      if endsAsDirectory path then .error (.of .notADirectory) else .ok (.file content)
    | some .directory => .ok .directory

def contains (fs : FileSystem) (path : String) : Bool := (fs.lookup path).isOk

def isDirectory (fs : FileSystem) (path : String) : Bool :=
  match fs.lookup path with
  | .ok .directory => true
  | _ => false

def read (fs : FileSystem) (path : String) : Except FileError String :=
  match fs.lookup path with
  | .error e => .error e
  | .ok .directory => .error (.of .isADirectory)
  | .ok (.file (.binary _)) => .error (.of .invalidData)
  | .ok (.file (.text text)) => .ok text

def createDirectory (fs : FileSystem) (path : String) : Except FileError FileSystem :=
  match fs.locate path with
  | .error e => .error e
  | .ok location =>
    if (fs.at? location).isSome then .error (.of .alreadyExists)
    else .ok (fs.put location .directory)

/-- Makes the directory whose components are given from last to first, and all that it needs. -/
def createBelow : List Component → FileSystem → Except FileError Unit × FileSystem
  | [], fs => (.ok (), fs)
  | last :: outer, fs =>
    let path := pathOf (last :: outer).reverse
    let settle (fs : FileSystem) (e : FileError) : Except FileError Unit × FileSystem :=
      if fs.isDirectory path then (.ok (), fs) else (.error e, fs)
    match fs.createDirectory path with
    | .ok made => (.ok (), made)
    | .error e =>
      if e.kind = .notFound then
        match createBelow outer fs with
        | (.error e, fs) => (.error e, fs)
        | (.ok (), fs) =>
          match fs.createDirectory path with
          | .ok made => (.ok (), made)
          | .error e => settle fs e
      else settle fs e

def createDirectories (fs : FileSystem) (path : String) : Except FileError Unit × FileSystem :=
  createBelow (components path).reverse fs

def locateParent (fs : FileSystem) (path : String) : Except FileError Location :=
  match checkPath path with
  | .error e => .error e
  | .ok () => fs.walk fs.workingDirectory ((components path).dropLast ++ [.here])

/-- Writes a file. A directory may not be in its place, and the path may not end as that of a
directory: then the last name is not even looked for, unless a dot follows it. -/
def writeContent (fs : FileSystem) (path : String) (content : Content) :
    Except FileError FileSystem :=
  if endsAsDirectory path && !endsInDot path then
    match fs.locateParent path with
    | .error e => .error e
    | .ok _ => .error (.of .isADirectory)
  else
    match fs.locate path with
    | .error e => .error e
    | .ok location =>
      match fs.at? location with
      | some .directory => .error (.of .isADirectory)
      | none =>
        if endsInDot path then .error (.of .notFound)
        else .ok (fs.put location (.file content))
      | some (.file _) =>
        if endsInDot path then .error (.of .notADirectory)
        else .ok (fs.put location (.file content))

def write (fs : FileSystem) (path text : String) : Except FileError FileSystem :=
  fs.writeContent path (.text text)

end FileSystem

end SourceModel.Storage
