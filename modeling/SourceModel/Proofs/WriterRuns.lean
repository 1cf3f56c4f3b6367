import SourceModel.Proofs.FallibleActions
import SourceModel.Proofs.FollowedPaths

/-!
# Runs of a writer

What handling a file does is said by `Handles`; from that follows what a run does, for files that
go to the same place too: a writer that overwrites leaves the last of them (`at?_of_overwrites`),
any other the first (`at?_of_keeps`), unless something was there before.
-/

namespace SourceModel.Storage

def WriteSummary.record (path : String) (written : Bool) (summary : WriteSummary) : WriteSummary :=
  if written then { summary with written := path :: summary.written }
  else { summary with skipped := path :: summary.skipped }

namespace Writer

variable (writer : Writer)

def filePath (file : RenderedFile) : String := joinPath writer.root file.path

def target (fs : FileSystem) (file : RenderedFile) : Location := fs.destination (writer.filePath file)

def Above (fs : FileSystem) (file : RenderedFile) : Location → Prop :=
  FileSystem.OnTheWay fs.workingDirectory (components (writer.filePath file)).dropLast

/-- The file is handled and reported as written or not, and the file system becomes another. -/
inductive Handles (file : RenderedFile) (fs : FileSystem) : Bool → FileSystem → Prop
  | skipped (inner : isInnerName file.path = true) (keeps : writer.overwrite = false)
      (found : fs.contains (writer.filePath file) = true) : Handles file fs false fs
  | written {made after : FileSystem} (inner : isInnerName file.path = true)
      (free : fs.contains (writer.filePath file) = false ∨ writer.overwrite = true)
      (adds : fs.AddsDirectories made (writer.Above fs file))
      (ended : made.write (writer.filePath file) file.text = .ok after) : Handles file fs true after

inductive Runs : FileSystem → List (RenderedFile × Bool) → FileSystem → Prop
  | nil (fs : FileSystem) : Runs fs [] fs
  | cons {fs mid after : FileSystem} {file : RenderedFile} {written : Bool}
      {rest : List (RenderedFile × Bool)} (first : writer.Handles file fs written mid)
      (others : Runs mid rest after) : Runs fs ((file, written) :: rest) after

def summaryOf (reports : List (RenderedFile × Bool)) : WriteSummary where
  written := (reports.filter fun report => report.2).map fun report => writer.filePath report.1
  skipped := (reports.filter fun report => !report.2).map fun report => writer.filePath report.1

theorem summaryOf_cons (file : RenderedFile) (written : Bool)
    (reports : List (RenderedFile × Bool)) :
    writer.summaryOf ((file, written) :: reports) =
      (writer.summaryOf reports).record (writer.filePath file) written := by
  cases written <;> rfl

/-! ## Handling a file -/

variable {writer}

theorem run_createDirectories (path : String) (world : World) :
    (ExceptT.mk (World.workspace.createDirectories path) :
      ExceptT FileError (StateM World) Unit).run.run world =
        ((world.files.createDirectories path).1,
          { world with files := (world.files.createDirectories path).2 }) := rfl

theorem run_write (path text : String) (world : World) :
    (ExceptT.mk (World.workspace.write path text) :
      ExceptT FileError (StateM World) Unit).run.run world =
        match world.files.write path text with
        | .ok files => (.ok (), { world with files })
        | .error e => (.error e, world) := rfl

theorem place_cases (file : RenderedFile) (world : World) :
    let outcome := (place World.workspace (writer.filePath file) file.text).run.run world
    ∃ made, world.files.AddsDirectories made (writer.Above world.files file) ∧
      ((∃ e, outcome = (.error e, { world with files := made })) ∨
        ∃ after, made.write (writer.filePath file) file.text = .ok after ∧
          outcome = (.ok (), { world with files := after })) := by
  have written : ∀ made : FileSystem,
      let outcome := (ExceptT.mk (World.workspace.write (writer.filePath file) file.text) :
        ExceptT FileError (StateM World) Unit).run.run { world with files := made }
      (∃ e, outcome = (.error e, { world with files := made })) ∨
        ∃ after, made.write (writer.filePath file) file.text = .ok after ∧
          outcome = (.ok (), { world with files := after }) := by
    intro made
    rw [run_write]
    cases ended : made.write (writer.filePath file) file.text with
    | error e => exact .inl ⟨e, rfl⟩
    | ok after => exact .inr ⟨after, rfl, rfl⟩
  unfold place
  cases above : parent? (writer.filePath file) with
  | none => exact ⟨world.files, .refl _ _, written world.files⟩
  | some parent =>
    have adds := world.files.createDirectories_adds parent
    rw [components_of_parent? above] at adds
    have created := run_createDirectories parent world
    refine ⟨_, adds, ?_⟩
    cases ended : (world.files.createDirectories parent).1 with
    | error e =>
      rw [ended] at created
      exact .inl ⟨e, run_bind_error created _⟩
    | ok _ =>
      rw [ended] at created
      dsimp only
      rw [run_bind_ok created]
      exact written _

theorem run_writeAll_cons (writer : Writer) (file : RenderedFile) (world : World) :
    (∃ e made, world.files.AddsDirectories made (writer.Above world.files file) ∧
      ∀ rest, (writer.writeAll World.workspace (file :: rest)).run.run world =
        (.error e, { world with files := made })) ∨
    ∃ written after, writer.Handles file world.files written after ∧
      ∀ rest, (writer.writeAll World.workspace (file :: rest)).run.run world =
        let others := (writer.writeAll World.workspace rest).run.run { world with files := after }
        (others.1.map (WriteSummary.record (writer.filePath file) written), others.2) := by
  by_cases inner : isInnerName file.path = true
  · have found : (ExceptT.mk (pure (writer.pathTo file.path)) :
        ExceptT FileError (StateM World) String).run.run world =
          (.ok (writer.filePath file), world) := by
      rw [pathTo_eq_ok_iff.mpr ⟨inner, rfl⟩]
      rfl
    have asked : (ExceptT.lift (World.workspace.contains (writer.filePath file)) :
        ExceptT FileError (StateM World) Bool).run.run world =
          (.ok (world.files.contains (writer.filePath file)), world) := rfl
    by_cases keeps : world.files.contains (writer.filePath file) && !writer.overwrite
    · have both : world.files.contains (writer.filePath file) = true ∧ writer.overwrite = false := by
        simpa using keeps
      refine .inr ⟨false, world.files, .skipped inner both.2 both.1, fun rest => ?_⟩
      rw [writeAll, run_bind_ok found, run_bind_ok asked, if_pos keeps]
      exact run_bind_pure _ (WriteSummary.record (writer.filePath file) false) world
    · have either : world.files.contains (writer.filePath file) = false ∨
          writer.overwrite = true := by
        cases overwrites : writer.overwrite <;> simp_all
      obtain ⟨made, adds, ⟨e, failed⟩ | ⟨after, ended, placed⟩⟩ := place_cases file world
      · refine .inl ⟨e, made, adds, fun rest => ?_⟩
        rw [writeAll, run_bind_ok found, run_bind_ok asked, if_neg keeps, run_bind_error failed]
      · refine .inr ⟨true, after, .written inner either adds ended, fun rest => ?_⟩
        rw [writeAll, run_bind_ok found, run_bind_ok asked, if_neg keeps, run_bind_ok placed]
        exact run_bind_pure _ (WriteSummary.record (writer.filePath file) true) _
  · have refused : (ExceptT.mk (pure (writer.pathTo file.path)) :
        ExceptT FileError (StateM World) String).run.run world =
          (.error (outerNameError file.path), world) := by
      rw [pathTo, if_neg inner]
      rfl
    exact .inl ⟨outerNameError file.path, world.files, .refl _ _, fun rest => run_bind_error refused _⟩

theorem writeAll_eq_ok {files : List RenderedFile} {world after : World} {summary : WriteSummary}
    (ended : (writer.writeAll World.workspace files).run.run world = (.ok summary, after)) :
    ∃ reports, reports.map Prod.fst = files ∧ summary = writer.summaryOf reports ∧
      writer.Runs world.files reports after.files := by
  induction files generalizing world summary with
  | nil =>
    obtain ⟨same, rfl⟩ := Prod.mk.inj ended
    exact ⟨[], rfl, (Except.ok.inj same).symm, .nil _⟩
  | cons file rest ih =>
    rcases run_writeAll_cons writer file world with
      ⟨e, made, -, failed⟩ | ⟨written, mid, handled, goesOn⟩
    · cases (failed rest).symm.trans ended
    · have eq := (goesOn rest).symm.trans ended
      rcases others : (writer.writeAll World.workspace rest).run.run { world with files := mid }
        with ⟨outcome, last⟩
      rw [others] at eq
      cases outcome with
      | error e => cases eq
      | ok restSummary =>
        obtain ⟨same, rfl⟩ := Prod.mk.inj eq
        obtain ⟨reports, rfl, rfl, runs⟩ := ih others
        refine ⟨(file, written) :: reports, rfl, ?_, .cons handled runs⟩
        rw [summaryOf_cons]
        exact (Except.ok.inj same).symm

theorem writeAll_eq_error {files : List RenderedFile} {world after : World} {e : FileError}
    (ended : (writer.writeAll World.workspace files).run.run world = (.error e, after)) :
    ∃ before file rest summary mid, files = before ++ file :: rest ∧
      (writer.writeAll World.workspace before).run.run world = (.ok summary, mid) ∧
      (writer.writeAll World.workspace [file]).run.run mid = (.error e, after) ∧
      mid.files.AddsDirectories after.files (writer.Above mid.files file) := by
  induction files generalizing world with
  | nil => cases ended
  | cons file rest ih =>
    rcases run_writeAll_cons writer file world with
      ⟨e', made, adds, failed⟩ | ⟨written, mid, handled, goesOn⟩
    · obtain ⟨same, rfl⟩ := Prod.mk.inj ((failed rest).symm.trans ended)
      obtain rfl := Except.error.inj same
      exact ⟨[], file, rest, {}, world, rfl, rfl, failed [], adds⟩
    · have eq := (goesOn rest).symm.trans ended
      rcases others : (writer.writeAll World.workspace rest).run.run { world with files := mid }
        with ⟨outcome, last⟩
      rw [others] at eq
      cases outcome with
      | ok restSummary => cases eq
      | error e' =>
        obtain ⟨same, rfl⟩ := Prod.mk.inj eq
        obtain rfl := Except.error.inj same
        obtain ⟨before, bad, rest, summary, between, rfl, first, failed, adds⟩ := ih others
        refine ⟨file :: before, bad, rest, summary.record (writer.filePath file) written, between,
          rfl, ?_, failed, adds⟩
        rw [goesOn before, first]
        rfl

/-! ## What handling a file does -/

namespace Handles

variable {file : RenderedFile} {fs after : FileSystem} {written : Bool}

theorem workingDirectory (handled : writer.Handles file fs written after) :
    after.workingDirectory = fs.workingDirectory := by
  cases handled with
  | skipped => rfl
  | written inner free adds ended =>
    obtain ⟨-, -, -, -, rfl⟩ := adds.write_eq_ok ended
    exact adds.workingDirectory

theorem target (handled : writer.Handles file fs written after) :
    writer.target after = writer.target fs := by
  funext other
  rw [Writer.target, Writer.target, FileSystem.destination, handled.workingDirectory]
  rfl

theorem isTree (handled : writer.Handles file fs written after) (tree : fs.IsTree) :
    after.IsTree := by
  cases handled with
  | skipped => exact tree
  | written inner free adds ended =>
    obtain ⟨-, passes, -, vacant, rfl⟩ := adds.write_eq_ok ended
    refine (adds.isTree tree).put vacant ?_ _
    rw [← adds.destination]
    exact (adds.isTree tree).inside_destination passes

theorem at?_directory (handled : writer.Handles file fs written after) {location : Location}
    (directory : fs.at? location = some .directory) : after.at? location = some .directory := by
  cases handled with
  | skipped => exact directory
  | written inner free adds ended =>
    obtain ⟨-, -, -, vacant, rfl⟩ := adds.write_eq_ok ended
    have there := adds.at?_of_eq_some directory
    rw [FileSystem.at?_put_of_ne _ _, there]
    rintro rfl
    exact vacant there

theorem climbs (handled : writer.Handles file fs written after) {path : String}
    (climbs : fs.ClimbsDirectories path) : after.ClimbsDirectories path := by
  intro before others split
  rw [handled.workingDirectory]
  exact handled.at?_directory (climbs before others split)

theorem file_iff (handled : writer.Handles file fs written after) {location : Location}
    (ne : writer.target fs file ≠ location) (content : Content) :
    after.at? location = some (.file content) ↔ fs.at? location = some (.file content) := by
  cases handled with
  | skipped => exact Iff.rfl
  | written inner free adds ended =>
    obtain ⟨-, -, -, -, rfl⟩ := adds.write_eq_ok ended
    have aside : location ≠ fs.destination (writer.filePath file) := Ne.symm ne
    rw [FileSystem.at?_put_of_ne aside]
    exact adds.file_iff location content

theorem at?_target (handled : writer.Handles file fs true after) :
    after.at? (writer.target fs file) = some (.file (.text file.text)) := by
  cases handled with
  | written inner free adds ended =>
    obtain ⟨-, -, -, vacant, rfl⟩ := adds.write_eq_ok ended
    refine FileSystem.at?_put_self (fun top => vacant ?_) _
    rw [top, FileSystem.at?_nil]

theorem eq_true (handled : writer.Handles file fs written after)
    (overwrites : writer.overwrite = true) : written = true := by
  cases handled with
  | skipped _ keeps => cases keeps.symm.trans overwrites
  | written => rfl

/-! ### Without overwriting -/

section Keeping

variable (tree : fs.IsTree) (climbing : fs.ClimbsDirectories writer.root)

include tree climbing

theorem at?_target_eq_none (handled : writer.Handles file fs true after)
    (keeps : writer.overwrite = false) :
    fs.at? (writer.target fs file) = none := by
  cases handled with
  | written inner free adds ended =>
    obtain ⟨checked, passes, plain, -, rfl⟩ := adds.write_eq_ok ended
    have missing : fs.contains (writer.filePath file) = false := by
      rcases free with missing | overwrites
      · exact missing
      · cases keeps.symm.trans overwrites
    -- What is there can be reached without the directories that were made for the file.
    by_contra something
    have found := Option.isSome_iff_ne_none.mpr something
    have before := adds.passes tree (climbing.joinPath inner) passes found
    rw [FileSystem.contains_of_isSome checked before plain found] at missing
    cases missing

theorem at?_of_eq_some (handled : writer.Handles file fs written after)
    (keeps : writer.overwrite = false) {location : Location} {entry : Entry}
    (found : fs.at? location = some entry) : after.at? location = some entry := by
  cases written with
  | false =>
    cases handled
    exact found
  | true =>
    have free := at?_target_eq_none tree climbing handled keeps
    cases handled with
    | written inner _ adds ended =>
      obtain ⟨-, -, -, -, rfl⟩ := adds.write_eq_ok ended
      rw [FileSystem.at?_put_of_ne, adds.at?_of_eq_some found]
      rintro rfl
      cases free.symm.trans found

theorem at?_of_eq_none (handled : writer.Handles file fs written after) {location : Location}
    (free : fs.at? location = none) (aside : ¬ location <+: writer.target fs file) :
    after.at? location = none := by
  cases handled with
  | skipped => exact free
  | written inner _ adds ended =>
    obtain ⟨-, -, -, -, rfl⟩ := adds.write_eq_ok ended
    rw [FileSystem.at?_put_of_ne fun same => aside (by rw [same]; exact List.prefix_rfl)]
    rcases adds.at? location with same | ⟨-, -, place⟩
    · rw [same, free]
    · exact absurd (tree.isPrefix_destination (climbing.joinPath inner)
        (place.of_isPrefix (List.dropLast_prefix _)) free) aside

end Keeping

end Handles

/-! ## What a run does -/

namespace Runs

variable {reports : List (RenderedFile × Bool)} {fs after : FileSystem}

theorem file_iff (runs : writer.Runs fs reports after) {location : Location}
    (aside : ∀ file ∈ reports.map Prod.fst, writer.target fs file ≠ location) (content : Content) :
    after.at? location = some (.file content) ↔ fs.at? location = some (.file content) := by
  induction runs with
  | nil => exact Iff.rfl
  | @cons fs mid after file written rest first others ih =>
    rw [List.map_cons, List.forall_mem_cons] at aside
    rw [first.target] at ih
    exact (ih aside.2).trans (first.file_iff aside.1 content)

theorem at?_of_overwrites (runs : writer.Runs fs reports after) (overwrites : writer.overwrite = true)
    {location : Location} (listed : ∃ file ∈ reports.map Prod.fst, writer.target fs file = location) :
    after.at? location = (((reports.map Prod.fst).filter fun file =>
      writer.target fs file = location).getLast?.map fun file => .file (.text file.text)) := by
  induction runs with
  | nil =>
    obtain ⟨file, mem, -⟩ := listed
    cases mem
  | @cons fs mid after file written rest first others ih =>
    obtain rfl := first.eq_true overwrites
    rw [first.target] at ih
    rw [List.map_cons, List.filter_cons]
    -- If a later file goes there, that file decides; else nothing is changed there any more.
    by_cases later : ∃ other ∈ rest.map Prod.fst, writer.target fs other = location
    · rw [ih later]
      obtain ⟨other, mem, there⟩ := later
      have ne : (rest.map Prod.fst).filter (fun other => writer.target fs other = location) ≠ [] :=
        List.ne_nil_of_mem (List.mem_filter.mpr ⟨mem, decide_eq_true there⟩)
      split
      · rw [List.getLast?_cons_of_ne_nil ne]
      · rfl
    · have aside : ∀ other ∈ rest.map Prod.fst, writer.target fs other ≠ location :=
        fun other mem there => later ⟨other, mem, there⟩
      have own : writer.target fs file = location := by
        obtain ⟨other, mem, there⟩ := listed
        rcases List.mem_cons.mp mem with rfl | mem
        · exact there
        · exact absurd there (aside other mem)
      have none : (rest.map Prod.fst).filter (fun other => writer.target fs other = location) = [] :=
        List.filter_eq_nil_iff.mpr fun other mem => by simpa using aside other mem
      rw [if_pos (decide_eq_true own), none, List.getLast?_singleton, Option.map_some]
      refine (others.file_iff (by rwa [first.target]) _).mpr ?_
      rw [← own]
      exact first.at?_target

theorem at?_of_eq_some (runs : writer.Runs fs reports after) (keeps : writer.overwrite = false)
    (tree : fs.IsTree) (climbing : fs.ClimbsDirectories writer.root) {location : Location}
    {entry : Entry} (found : fs.at? location = some entry) : after.at? location = some entry := by
  induction runs with
  | nil => exact found
  | @cons fs mid after file written rest first others ih =>
    exact ih (first.isTree tree) (first.climbs climbing)
      (first.at?_of_eq_some tree climbing keeps found)

theorem at?_of_keeps (runs : writer.Runs fs reports after) (keeps : writer.overwrite = false)
    (tree : fs.IsTree) (climbing : fs.ClimbsDirectories writer.root)
    (apart : ∀ file ∈ reports.map Prod.fst, ∀ other ∈ reports.map Prod.fst,
      writer.target fs file <+: writer.target fs other →
        writer.target fs file = writer.target fs other)
    {location : Location} (listed : ∃ file ∈ reports.map Prod.fst, writer.target fs file = location) :
    after.at? location = (fs.at? location).or (((reports.map Prod.fst).filter fun file =>
      writer.target fs file = location).head?.map fun file => .file (.text file.text)) := by
  induction runs with
  | nil =>
    obtain ⟨file, mem, -⟩ := listed
    cases mem
  | @cons fs mid after file written rest first others ih =>
    rw [first.target] at ih
    cases before : fs.at? location with
    | some entry =>
      exact (Runs.cons first others).at?_of_eq_some keeps tree climbing before
    | none =>
      rw [Option.none_or, List.map_cons, List.filter_cons]
      by_cases own : writer.target fs file = location
      · rw [if_pos (decide_eq_true own), List.head?_cons, Option.map_some]
        refine others.at?_of_eq_some keeps (first.isTree tree) (first.climbs climbing) ?_
        cases written with
        | true => 
          rw [← own]
          exact first.at?_target
        | false =>
          cases first with
          | skipped _ _ found =>
            have there : (fs.at? (writer.target fs file)).isSome :=
              FileSystem.isSome_of_contains found
            rw [own, before] at there
            cases there
      -- The place is that of a later file, so no directory on the way to this file is made there.
      · have mem : ∃ other ∈ rest.map Prod.fst, writer.target fs other = location := by
          obtain ⟨other, mem, there⟩ := listed
          rcases List.mem_cons.mp mem with rfl | mem
          · exact absurd there own
          · exact ⟨other, mem, there⟩
        have aside : ¬ location <+: writer.target fs file := by
          obtain ⟨other, mem, rfl⟩ := mem
          intro above
          exact own (apart other (List.mem_cons_of_mem _ mem) file List.mem_cons_self above).symm
        have still := first.at?_of_eq_none tree climbing before aside
        have others := ih (first.isTree tree) (first.climbs climbing)
          (fun f fmem g gmem => apart f (List.mem_cons_of_mem _ fmem) g
            (List.mem_cons_of_mem _ gmem)) mem
        rw [still, Option.none_or] at others
        rw [others, if_neg (by simpa using own)]

end Runs

/-- A run leaves all files alone but those of the list, and when it fails at one of them, that one
too. When it succeeds it reports on each file once. A writer that overwrites leaves the last of the
files that go to a place; any other leaves what was there, and else the first of them, if no file
goes to a place above another one and the root has no step up from where no directory is. -/
theorem writeAll_outcome (writer : Writer) (files : List RenderedFile) (world : World) :
    let outcome := (writer.writeAll World.workspace files).run.run world
    let target := writer.target world.files
    (∀ location, (∀ file ∈ files, target file ≠ location) → ∀ content,
      outcome.2.files.at? location = some (.file content) ↔
        world.files.at? location = some (.file content)) ∧
    (∀ e, outcome.1 = .error e → ∃ before file rest summary mid, files = before ++ file :: rest ∧
      (writer.writeAll World.workspace before).run.run world = (.ok summary, mid) ∧
      (writer.writeAll World.workspace [file]).run.run mid = (.error e, outcome.2) ∧
      ∀ location content, outcome.2.files.at? location = some (.file content) ↔
        mid.files.at? location = some (.file content)) ∧
    ∀ summary, outcome.1 = .ok summary →
      (∃ reports : List (RenderedFile × Bool), reports.map Prod.fst = files ∧
        summary.written = (reports.filter fun report => report.2).map
          (fun report => joinPath writer.root report.1.path) ∧
        summary.skipped = (reports.filter fun report => !report.2).map
          (fun report => joinPath writer.root report.1.path)) ∧
      (writer.overwrite = true → ∀ file ∈ files, outcome.2.files.at? (target file) =
        ((files.filter fun other => target other = target file).getLast?.map
          fun other => .file (.text other.text))) ∧
      (writer.overwrite = false → world.files.IsTree →
        world.files.ClimbsDirectories writer.root →
        (∀ file ∈ files, ∀ other ∈ files, target file <+: target other →
          target file = target other) →
        ∀ file ∈ files, outcome.2.files.at? (target file) =
          (world.files.at? (target file)).or
            ((files.filter fun other => target other = target file).head?.map
              fun other => .file (.text other.text))) := by
  intro outcome target
  rcases ended : outcome with ⟨result, after⟩
  have run : (writer.writeAll World.workspace files).run.run world = (result, after) := ended
  cases result with
  | error e =>
    -- What stands before the failing file was handled, and of that file only directories are left.
    obtain ⟨before, file, rest, summary, mid, rfl, handled, failed, adds⟩ := writeAll_eq_error run
    obtain ⟨reports, rfl, -, runs⟩ := writeAll_eq_ok handled
    refine ⟨fun location aside content => ?_, fun e' same => ?_, fun summary same => ?_⟩
    · exact (adds.file_iff location content).trans
        (runs.file_iff (fun f mem => aside f (List.mem_append_left _ mem)) content)
    · obtain rfl := Except.error.inj same
      exact ⟨_, file, rest, summary, mid, rfl, handled, failed, adds.file_iff⟩
    · cases same
  | ok summary =>
    obtain ⟨reports, rfl, rfl, runs⟩ := writeAll_eq_ok run
    refine ⟨fun location aside => runs.file_iff aside, fun e same => ?_, fun summary same => ?_⟩
    · cases same
    · obtain rfl := Except.ok.inj same
      refine ⟨⟨reports, rfl, rfl, rfl⟩, fun overwrites file mem => ?_,
        fun keeps tree climbing apart file mem => ?_⟩
      · exact runs.at?_of_overwrites overwrites ⟨file, mem, rfl⟩
      · exact runs.at?_of_keeps keeps tree climbing apart ⟨file, mem, rfl⟩

def shelf : World where
  files := (((({} : FileSystem).put ["out"] .directory).put
    ["out", "A.java"] (.file (.text "old A"))).put ["out", "B.java"] (.file (.text "old B")))

theorem isTree_shelf : shelf.files.IsTree :=
  ((FileSystem.IsTree.empty.put (by decide +kernel) (by decide +kernel) _).put
    (by decide +kernel) (by decide +kernel) _).put (by decide +kernel) (by decide +kernel) _

def sheets (texts : List (String × String)) : List RenderedFile :=
  texts.map fun text => ⟨{ name := text.1 }, text.2⟩

theorem writeAll_outcome_shelf :
    let outcome := ((⟨"out/../out", false⟩ : Writer).writeAll World.workspace (sheets
      [("A.java", "new A"), ("C.java", "first C"), ("./C.java", "second C")])).run.run shelf
    outcome.2.files.at? ["out", "A.java"] = some (.file (.text "old A")) ∧
    outcome.2.files.at? ["out", "C.java"] = some (.file (.text "first C")) := by
  dsimp only
  have climbing : shelf.files.ClimbsDirectories "out/../out" := by
    intro before after split
    rw [show components "out/../out" = [.name "out", .up, .name "out"] by decide +kernel] at split
    obtain rfl : before = [.name "out"] := by
      rcases before with _ | ⟨first, _ | ⟨second, _ | ⟨third, rest⟩⟩⟩ <;> simp_all
    decide +kernel
  have kept := ((writeAll_outcome ⟨"out/../out", false⟩ (sheets
    [("A.java", "new A"), ("C.java", "first C"), ("./C.java", "second C")]) shelf).2.2
      ⟨["out/../out/C.java"], ["out/../out/A.java", "out/../out/./C.java"]⟩
      (by decide +kernel)).2.2 rfl isTree_shelf climbing (by decide +kernel)
  have atA := kept ⟨{ name := "A.java" }, "new A"⟩ (by simp [sheets])
  have atC := kept ⟨{ name := "C.java" }, "first C"⟩ (by simp [sheets])
  have placeA : (⟨"out/../out", false⟩ : Writer).target shelf.files
    ⟨{ name := "A.java" }, "new A"⟩ = ["out", "A.java"] := by decide +kernel
  have placeC : (⟨"out/../out", false⟩ : Writer).target shelf.files
    ⟨{ name := "C.java" }, "first C"⟩ = ["out", "C.java"] := by decide +kernel
  rw [placeA] at atA
  rw [placeC] at atC
  rw [atA, atC]
  decide +kernel

/-- Behind a missing directory even a file that is there is not found at first, and is replaced; the
next one is found, because the directory was made. -/
theorem writeAll_behind_missing_directory :
    let outcome := ((⟨"x/../out", false⟩ : Writer).writeAll World.workspace
      (sheets [("A.java", "new A"), ("B.java", "new B")])).run.run shelf
    shelf.files.IsTree ∧
    outcome.1 = .ok ⟨["x/../out/A.java"], ["x/../out/B.java"]⟩ ∧
    shelf.files.at? ["out", "A.java"] = some (.file (.text "old A")) ∧
    outcome.2.files.at? ["out", "A.java"] = some (.file (.text "new A")) ∧
    shelf.files.contains "x/../out/B.java" = false ∧
    outcome.2.files.at? ["out", "B.java"] = some (.file (.text "old B")) := by
  refine ⟨isTree_shelf, ?_⟩
  decide +kernel

end Writer

end SourceModel.Storage
