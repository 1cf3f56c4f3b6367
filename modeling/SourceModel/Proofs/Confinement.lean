import SourceModel.Proofs.WriterRuns

namespace SourceModel.Storage

/-- The name is empty, starts at the root of the file system, or has a step up. -/
def LeadsOut (name : String) : Prop :=
  name = "" ∨ name.toList.head? = some '/' ∨ Component.up ∈ components name

instance (name : String) : Decidable (LeadsOut name) :=
  inferInstanceAs (Decidable (_ ∨ _ ∨ _))

theorem isInnerName_iff (name : String) : isInnerName name = true ↔ ¬ LeadsOut name := by
  rw [LeadsOut, ← root_mem_components_iff, isInnerName, Bool.and_eq_true, bne_iff_ne,
    List.all_eq_true, not_or, not_or]
  refine and_congr_right fun _ => ⟨fun all => ⟨fun root => ?_, fun up => ?_⟩, ?_⟩
  · cases all _ root
  · cases all _ up
  · rintro ⟨noRoot, noUp⟩ c mem
    cases c with
    | root => exact absurd mem noRoot
    | up => exact absurd mem noUp
    | here => rfl
    | name text => rfl

namespace Writer

variable {writer : Writer}

theorem pathTo_of_leadsOut {name : String} (out : LeadsOut name) :
    writer.pathTo name = .error (outerNameError name) :=
  if_neg fun inner => (isInnerName_iff name).mp inner out

theorem pathTo_of_not_leadsOut {name : String} (inner : ¬ LeadsOut name) :
    writer.pathTo name = .ok (joinPath writer.root name) :=
  if_pos ((isInnerName_iff name).mpr inner)

theorem run_writeAll_of_leadsOut {file : RenderedFile} (out : LeadsOut file.path)
    (rest : List RenderedFile) (world : World) :
    (writer.writeAll World.workspace (file :: rest)).run.run world =
      (.error (outerNameError file.path), world) := by
  have refused : (ExceptT.mk (pure (writer.pathTo file.path)) :
      ExceptT FileError (StateM World) String).run.run world =
        (.error (outerNameError file.path), world) := by
    rw [pathTo_of_leadsOut out]
    rfl
  exact run_bind_error refused _

theorem root_isPrefix_target (fs : FileSystem) {file : RenderedFile}
    (inner : isInnerName file.path = true) :
    fs.destination writer.root <+: writer.target fs file := by
  obtain ⟨inside, joined, stays⟩ := exists_components_joinPath inner writer.root
  rw [target, filePath, FileSystem.destination, FileSystem.destination, joined, follow_append]
  exact prefix_follow stays _

theorem Handles.isInnerName {file : RenderedFile} {fs after : FileSystem} {written : Bool}
    (handled : writer.Handles file fs written after) : isInnerName file.path = true := by
  cases handled with
  | skipped inner => exact inner
  | written inner => exact inner

theorem Runs.isInnerName {reports : List (RenderedFile × Bool)} {fs after : FileSystem}
    (runs : writer.Runs fs reports after) :
    ∀ file ∈ reports.map Prod.fst, isInnerName file.path = true := by
  induction runs with
  | nil => nofun
  | cons first others ih => exact List.forall_mem_cons.mpr ⟨first.isInnerName, ih⟩

theorem Runs.file_iff_of_outside {reports : List (RenderedFile × Bool)} {fs after : FileSystem}
    (runs : writer.Runs fs reports after) {location : Location}
    (outside : ¬ fs.destination writer.root <+: location) (content : Content) :
    after.at? location = some (.file content) ↔ fs.at? location = some (.file content) := by
  refine runs.file_iff (fun file mem there => outside ?_) content
  rw [← there]
  exact root_isPrefix_target fs (runs.isInnerName file mem)

/-- A name that leads out is refused, and its file ends the run with nothing done for it. Any other
name adds its names to the components of the root, and no file outside the root is made or changed,
however the run ends. -/
theorem writeAll_confined (writer : Writer) :
    (∀ name, (∃ e, writer.pathTo name = .error e ∧ e.kind = .invalidInput) ↔ LeadsOut name) ∧
    (∀ file rest world, LeadsOut file.path →
      (writer.writeAll World.workspace (file :: rest)).run.run world =
        (.error (outerNameError file.path), world)) ∧
    (∀ name, ¬ LeadsOut name → writer.pathTo name = .ok (joinPath writer.root name) ∧
      components (joinPath writer.root name) = components writer.root ++
        (if writer.root = "" ∧ Component.here ∈ components name then [.here] else []) ++
          (pathNames name).map .name) ∧
    ∀ files world, let after := ((writer.writeAll World.workspace files).run.run world).2
      ∀ location, ¬ world.files.destination writer.root <+: location → ∀ content,
        after.files.at? location = some (.file content) ↔
          world.files.at? location = some (.file content) := by
  refine ⟨fun name => ⟨?_, fun out => ?_⟩, fun file rest world out => ?_, fun name inner => ?_,
    fun files world => ?_⟩
  · rintro ⟨e, refused, -⟩
    by_contra inner
    cases (pathTo_of_not_leadsOut inner).symm.trans refused
  · exact ⟨_, pathTo_of_leadsOut out, rfl⟩
  · exact run_writeAll_of_leadsOut out rest world
  · exact ⟨pathTo_of_not_leadsOut inner,
      components_joinPath_of_isInnerName ((isInnerName_iff name).mpr inner) writer.root⟩
  · intro after location outside content
    rcases ended : (writer.writeAll World.workspace files).run.run world with ⟨result, last⟩
    have reached : after = last := congrArg Prod.snd ended
    rw [reached]
    cases result with
    | ok summary =>
      obtain ⟨reports, -, -, runs⟩ := writeAll_eq_ok ended
      exact runs.file_iff_of_outside outside content
    | error e =>
      -- The files before the failing one stay below the root; that one leaves only directories.
      obtain ⟨before, file, rest, summary, mid, -, handled, -, adds⟩ := writeAll_eq_error ended
      obtain ⟨reports, -, -, runs⟩ := writeAll_eq_ok handled
      exact (adds.file_iff location content).trans (runs.file_iff_of_outside outside content)

theorem writeAll_confined_shelf :
    LeadsOut "a/../../A.java" ∧
    ((⟨"out", true⟩ : Writer).writeAll World.workspace
      (sheets [("a/../../A.java", "new A"), ("B.java", "new B")])).run.run shelf =
        (.error (outerNameError "a/../../A.java"), shelf) ∧
    ¬ LeadsOut "./com//A.java" ∧
    components (joinPath "out" "./com//A.java") = [.name "out", .name "com", .name "A.java"] ∧
    ¬ shelf.files.destination "out/x" <+: ["out", "A.java"] ∧
    (((⟨"out/x", true⟩ : Writer).writeAll World.workspace
      (sheets [("A.java", "new A"), ("/B.java", "new B")])).run.run shelf).2.files.at?
        ["out", "A.java"] = some (.file (.text "old A")) := by
  have confined := writeAll_confined ⟨"out", true⟩
  have out : LeadsOut "a/../../A.java" := by decide +kernel
  have inner : ¬ LeadsOut "./com//A.java" := by decide +kernel
  have outside : ¬ shelf.files.destination "out/x" <+: ["out", "A.java"] := by decide +kernel
  refine ⟨out, confined.2.1 _ _ _ out, inner, ?_, outside, ?_⟩
  · rw [(confined.2.2.1 _ inner).2]
    decide +kernel
  · refine ((writeAll_confined ⟨"out/x", true⟩).2.2.2 _ shelf _ outside _).mpr ?_
    decide +kernel

theorem components_joinPath_empty_dot :
    ¬ LeadsOut "." ∧ components (joinPath "" ".") = [.here] ∧
      components "" ++ (pathNames ".").map .name = [] := by
  decide +kernel

end Writer

end SourceModel.Storage
