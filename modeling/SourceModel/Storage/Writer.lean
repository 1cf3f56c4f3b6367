import SourceModel.Engine
import SourceModel.Storage.Workspace

namespace SourceModel.Storage

structure Writer where
  root : String
  overwrite : Bool := false
  deriving DecidableEq, Repr

structure WriteSummary where
  written : List String := []
  skipped : List String := []
  deriving DecidableEq, Repr

def isInnerName (name : String) : Bool :=
  name != "" && (components name).all Component.staysInside

def outerNameError (name : String) : FileError :=
  ⟨.invalidInput,
    "file name `" ++ name ++ "` must be a relative path inside the output directory"⟩

namespace Writer

variable {m : Type → Type} [Monad m]

def pathTo (writer : Writer) (name : String) : Except FileError String :=
  if isInnerName name then .ok (joinPath writer.root name) else .error (outerNameError name)

theorem pathTo_eq_ok_iff {writer : Writer} {name path : String} :
    writer.pathTo name = .ok path ↔ isInnerName name = true ∧ path = joinPath writer.root name := by
  unfold pathTo
  split
  · simp [*, eq_comm]
  · simp [*]

def place (workspace : Workspace m) (path text : String) : ExceptT FileError m Unit := do
  match parent? path with
  | some parent => ExceptT.mk (workspace.createDirectories parent)
  | none => pure ()
  ExceptT.mk (workspace.write path text)

def writeAll (writer : Writer) (workspace : Workspace m) :
    List RenderedFile → ExceptT FileError m WriteSummary
  | [] => pure {}
  | file :: rest => do
    let path ← ExceptT.mk (pure (writer.pathTo file.path))
    if (← ExceptT.lift (workspace.contains path)) && !writer.overwrite then
      let summary ← writer.writeAll workspace rest
      return { summary with skipped := path :: summary.skipped }
    else
      place workspace path file.text
      let summary ← writer.writeAll workspace rest
      return { summary with written := path :: summary.written }

end Writer

end SourceModel.Storage
