import SourceModel.Command.Run
import SourceModel.Proofs.BuilderOrder
import SourceModel.Proofs.FallibleActions

namespace SourceModel

theorem Dialect.eq_java_of_find? {name : String} (known : (Dialect.find? name).isSome) :
    name = java.name := by
  obtain ⟨dialect, found⟩ := Option.isSome_iff_exists.mp known
  have own := List.find?_some found
  obtain rfl := List.mem_singleton.mp (List.mem_of_find?_eq_some found)
  exact (of_decide_eq_true own).symm

theorem Engine.isSome_find?_of_new {config : Config} {engine : Engine}
    (built : Engine.new config = .ok engine) : (Dialect.find? config.dialect).isSome := by
  have outcome : (EngineBuilder.ofCalls config []).outcome.1 = .ok engine.registry :=
    congrArg (Except.map Engine.registry) built
  obtain ⟨bench, ran, -⟩ := runSteps_of_outcome outcome
  obtain ⟨bench', installed, -⟩ := runSteps_cons_eq_ok ran
  rw [EngineBuilder.installing] at installed
  split at installed
  · rename_i found
    rw [found, Option.isSome_some]
  · cases installed

theorem Engine.stop_of_new {config : Config} {engine : Engine}
    (built : Engine.new config = .ok engine) : engine.stop.1 = .ok () := by
  obtain ⟨dialect, formatting⟩ := config
  obtain rfl := Dialect.eq_java_of_find? (Engine.isSome_find?_of_new built)
  obtain rfl := Except.ok.inj built
  rfl

namespace Command

open Storage

variable {platform : Option String} {arguments : Arguments} {world : World}

theorem onlyReads_contains (path : String) :
    OnlyReads (ExceptT.lift (World.workspace.contains path) : ExceptT Failure (StateM World) Bool) :=
  fun _ => rfl

theorem run_filing {α : Type} (operation : StateM World (Except FileError α)) (world : World) :
    (filing operation).run.run world =
      ((operation.run world).1.mapError Failure.io, (operation.run world).2) := rfl

theorem run_read (world : World) (path : String) :
    (filing (World.workspace.read path)).run.run world =
      ((world.files.read path).mapError Failure.io, world) :=
  run_filing (World.workspace.read path) world

theorem onlyReads_loadConfigFile (path : String) :
    OnlyReads (loadConfigFile World.workspace path) := by
  refine (onlyReads_contains path).bind fun present => ?_
  cases present with
  | false => exact OnlyReads.ofResult _
  | true =>
    have read : OnlyReads (filing (World.workspace.read path)) := fun _ => rfl
    exact read.bind fun text => OnlyReads.ofResult _

theorem onlyReads_loadFirstConfig (paths : List String) :
    OnlyReads (loadFirstConfig World.workspace paths) := by
  induction paths with
  | nil => exact OnlyReads.ofResult _
  | cons path rest ih =>
    refine (onlyReads_contains path).bind fun present => ?_
    cases present with
    | false => exact ih
    | true => exact onlyReads_loadConfigFile path

theorem onlyReads_loadConfig (explicit platform : Option String) :
    OnlyReads (loadConfig World.workspace explicit platform) := by
  cases explicit with
  | none => exact onlyReads_loadFirstConfig _
  | some path => exact onlyReads_loadConfigFile path

theorem run_printAll (files : List RenderedFile) (world : World) :
    (printAll World.workspace files).run world =
      ((), { world with printed := world.printed ++ String.join (files.map preview) }) := by
  induction files generalizing world with
  | nil =>
    rw [List.map_nil, String.join_nil, String.append_empty]
    rfl
  | cons file rest ih =>
    have others := ih { world with printed := world.printed ++ preview file }
    rw [printAll, StateT.run_bind]
    refine others.trans ?_
    simp [String.append_assoc]

theorem generate_eq_ok_iff {config : Config} {document : String} {engine : Engine}
    {rendered : List RenderedFile} :
    generate config document = .ok (engine, rendered) ↔
      ∃ files, Document.parse document = .ok files ∧ Engine.new config = .ok engine ∧
        files.mapM engine.renderFile = .ok rendered := by
  simp only [generate, bind_eq_ok_iff, pure, Except.pure, Except.ok.injEq, Prod.mk.injEq]
  constructor
  · rintro ⟨files, parsed, engine, built, rendered, written, rfl, rfl⟩
    exact ⟨files, parsed, built, written⟩
  · rintro ⟨files, parsed, built, written⟩
    exact ⟨files, parsed, engine, built, rendered, written, rfl, rfl⟩

theorem run_eq (platform : Option String) (arguments : Arguments) (world : World) :
    (run World.workspace platform arguments).run.run world =
      match ((loadConfig World.workspace arguments.config platform).run.run world).1 with
      | .error e => (.error e, world)
      | .ok config =>
        match world.files.read arguments.input with
        | .error e => (.error (.io e), world)
        | .ok document =>
          match generate config document with
          | .error e => (.error e, world)
          | .ok (_, rendered) =>
            if arguments.dryRun then
              (.ok (), { world with
                printed := world.printed ++ String.join (rendered.map preview) })
            else
              let writer : Writer := ⟨arguments.output, arguments.overwrite⟩
              match (writer.writeAll World.workspace rendered).run.run world with
              | (.error e, after) => (.error (.io e), after)
              | (.ok _, after) => (.ok (), after) := by
  have configured := (onlyReads_loadConfig arguments.config platform).run_eq world
  have read := run_read world arguments.input
  cases loaded : ((loadConfig World.workspace arguments.config platform).run.run world).1 with
  | error e =>
    rw [loaded] at configured
    exact run_bind_error configured _
  | ok config =>
    rw [loaded] at configured
    refine (run_bind_ok configured _).trans ?_
    dsimp only
    cases found : world.files.read arguments.input with
    | error e =>
      rw [found] at read
      exact run_bind_error read _
    | ok document =>
      rw [found] at read
      refine (run_bind_ok read _).trans ?_
      dsimp only
      cases generated : generate config document with
      | error e => exact run_bind_error rfl _
      | ok result =>
        obtain ⟨engine, rendered⟩ := result
        refine (run_bind_ok rfl _).trans ?_
        -- The engine is stopped after the last effect, so the run ends well only if that does.
        obtain ⟨-, -, built, -⟩ := generate_eq_ok_iff.mp generated
        have stopped := Engine.stop_of_new built
        dsimp only
        split
        · have printed : (ExceptT.lift (printAll World.workspace rendered) :
              ExceptT Failure (StateM World) Unit).run.run world = (.ok (), { world with
                printed := world.printed ++ String.join (rendered.map preview) }) := by
            rw [ExceptT.run_lift, StateT.run_map, run_printAll]
            rfl
          refine (run_bind_ok printed _).trans ?_
          rw [stopped]
          rfl
        · have filed := run_filing (Writer.writeAll ⟨arguments.output, arguments.overwrite⟩
            World.workspace rendered).run world
          rcases ended : (Writer.writeAll ⟨arguments.output, arguments.overwrite⟩
            World.workspace rendered).run.run world with ⟨outcome, after⟩
          rw [ended] at filed
          cases outcome with
          | error e => exact run_bind_error filed _
          | ok summary =>
            refine (run_bind_ok filed _).trans ?_
            rw [stopped]
            rfl

/-- A run ends before it has touched anything, or all its stages up to the rendering end well; then
a dry run prints the files, and any other run can only fail in writing them. -/
theorem run_cases (platform : Option String) (arguments : Arguments) (world : World) :
    let outcome := (run World.workspace platform arguments).run.run world
    (∃ failure, outcome = (.error failure, world)) ∨
      ∃ config document engine rendered,
        ((loadConfig World.workspace arguments.config platform).run.run world).1 = .ok config ∧
        world.files.read arguments.input = .ok document ∧
        generate config document = .ok (engine, rendered) ∧
        (arguments.dryRun = true ∧ outcome = (.ok (), { world with
            printed := world.printed ++ String.join (rendered.map preview) }) ∨
          arguments.dryRun = false ∧ ∀ failure, outcome.1 = .error failure →
            ∃ e, failure = .io e) := by
  intro outcome
  have eq : outcome = _ := run_eq platform arguments world
  cases loaded : ((loadConfig World.workspace arguments.config platform).run.run world).1 with
  | error failure =>
    rw [loaded] at eq
    exact .inl ⟨failure, eq⟩
  | ok config =>
    rw [loaded] at eq
    dsimp only at eq
    cases found : world.files.read arguments.input with
    | error e =>
      rw [found] at eq
      exact .inl ⟨.io e, eq⟩
    | ok document =>
      rw [found] at eq
      dsimp only at eq
      cases generated : generate config document with
      | error failure =>
        rw [generated] at eq
        exact .inl ⟨failure, eq⟩
      | ok result =>
        obtain ⟨engine, rendered⟩ := result
        rw [generated] at eq
        dsimp only at eq
        refine .inr ⟨config, document, engine, rendered, rfl, rfl, generated, ?_⟩
        cases dry : arguments.dryRun with
        | true =>
          rw [dry, if_pos rfl] at eq
          exact .inl ⟨rfl, eq⟩
        | false =>
          rw [dry, if_neg Bool.false_ne_true] at eq
          refine .inr ⟨rfl, fun failure failed => ?_⟩
          rw [eq] at failed
          split at failed
          · rename_i e after ended
            exact ⟨e, (Except.error.inj failed).symm⟩
          · cases failed

theorem eq_of_renderFile_eq_ok {engine : Engine} {file : SourceFile} {rendered : RenderedFile}
    (written : engine.renderFile file = .ok rendered) :
    engine.fileText file = .ok rendered.text ∧ preview rendered =
      "// " ++ file.name ++ "\n" ++ rendered.text := by
  unfold Engine.renderFile at written
  cases text : engine.fileText file with
  | error e =>
    rw [text] at written
    cases written
  | ok text' =>
    rw [text] at written
    obtain rfl := Except.ok.inj written
    exact ⟨rfl, rfl⟩

theorem exists_texts_of_rendered {engine : Engine} {files : List SourceFile}
    {rendered : List RenderedFile}
    (written : List.Forall₂ (fun file out => engine.renderFile file = .ok out) files rendered) :
    ∃ texts, List.Forall₂ (fun file text => engine.fileText file = .ok text) files texts ∧
      rendered.map preview =
        List.zipWith (fun file text => "// " ++ file.name ++ "\n" ++ text) files texts := by
  induction written with
  | nil => exact ⟨[], .nil, rfl⟩
  | @cons file out files rendered first rest ih =>
    obtain ⟨text, shown⟩ := eq_of_renderFile_eq_ok first
    obtain ⟨texts, rest, previews⟩ := ih
    refine ⟨out.text :: texts, .cons text rest, ?_⟩
    rw [List.map_cons, List.zipWith_cons_cons, shown, previews]

/-- A run that fails for anything but the writing of a file leaves the world as it was, and a dry
run does nothing but print, for each file of the document, a line with its name and its text. -/
theorem run_untouched (platform : Option String) (arguments : Arguments) (world : World) :
    let outcome := (run World.workspace platform arguments).run.run world
    let configuration := ((loadConfig World.workspace arguments.config platform).run.run world).1
    let document := world.files.read arguments.input
    (∀ failure, outcome.1 = .error failure →
      (∀ e, failure ≠ .io e) ∨ (∃ e, configuration = .error e) ∨ (∃ e, document = .error e) →
        outcome.2 = world) ∧
    (arguments.dryRun = true →
      outcome.2.files = world.files ∧
      (∀ failure, outcome.1 = .error failure → outcome.2 = world) ∧
      (outcome.1 = .ok () → ∃ config source files engine texts,
        configuration = .ok config ∧ document = .ok source ∧
        Document.parse source = .ok files ∧ Engine.new config = .ok engine ∧
        List.Forall₂ (fun file text => engine.fileText file = .ok text) files texts ∧
        outcome.2.printed = world.printed ++ String.join
          (List.zipWith (fun file text => "// " ++ file.name ++ "\n" ++ text) files texts))) := by
  intro outcome configuration document
  rcases run_cases platform arguments world with
    ⟨failure, ended⟩ | ⟨config, source, engine, rendered, configured, read, generated, ended⟩
  · have same : outcome = (.error failure, world) := ended
    refine ⟨fun _ _ _ => by rw [same], fun _ => ⟨by rw [same], fun _ _ => by rw [same], ?_⟩⟩
    intro succeeded
    rw [same] at succeeded
    cases succeeded
  · have noConfigError : ¬ ∃ e, configuration = .error e := by
      rintro ⟨e, failed⟩
      cases configured.symm.trans failed
    have noReadError : ¬ ∃ e, document = .error e := by
      rintro ⟨e, failed⟩
      cases read.symm.trans failed
    rcases ended with ⟨dry, printed⟩ | ⟨wet, onlyWriting⟩
    · have same : outcome = (.ok (), { world with
          printed := world.printed ++ String.join (rendered.map preview) }) := printed
      have noFailure : ∀ failure, outcome.1 ≠ .error failure := by
        intro failure failed
        rw [same] at failed
        cases failed
      refine ⟨fun failure failed => absurd failed (noFailure failure), fun _ => ⟨by rw [same],
        fun failure failed => absurd failed (noFailure failure), fun _ => ?_⟩⟩
      obtain ⟨files, parsed, built, written⟩ := generate_eq_ok_iff.mp generated
      obtain ⟨texts, shown, previews⟩ := exists_texts_of_rendered (forall₂_of_mapM_eq_ok written)
      exact ⟨config, source, files, engine, texts, configured, read, parsed, built, shown,
        by rw [same, ← previews]⟩
    · refine ⟨fun failure failed cause => ?_, fun dry => absurd (wet.symm.trans dry) (by decide)⟩
      -- The stages before the writing have ended well, so none of them is the cause.
      obtain ⟨e, rfl⟩ := onlyWriting failure failed
      rcases cause with noIo | unread | unread
      · exact absurd rfl (noIo e)
      · exact absurd unread noConfigError
      · exact absurd unread noReadError

def shelves : World where
  files := (({} : FileSystem).put ["shelf.toml"] (.file (.text
    ("[[file]]\nname = \"Shelf.java\"\n" ++
    "[[file.declaration]]\nkind = \"class\"\nname = \"Shelf\"\n")))).put
    ["shop.toml"] (.file (.text
    ("[[file]]\nname = \"Shelf.java\"\n[[file]]\nname = \"Shop.java\"\n" ++
    "[[file.declaration]]\nkind = \"class\"\nname = \"Shop\"\nmodifiers = [\"open\"]\n")))

theorem run_untouched_shelves :
    ((run World.workspace none { input := "shop.toml" }).run.run shelves).2 = shelves ∧
    ((run World.workspace none { input := "shelf.toml", dryRun := true }).run.run shelves).2.files =
      shelves.files :=
  ⟨(run_untouched none { input := "shop.toml" } shelves).1 (.model "unknown modifier `open`")
      (by decide +kernel) (.inl fun _ => nofun),
    ((run_untouched none { input := "shelf.toml", dryRun := true } shelves).2 rfl).1⟩

example : ((run World.workspace none { input := "shelf.toml", dryRun := true }).run.run
    shelves).2.printed = "// Shelf.java\nclass Shelf \x7b\n\x7d\n" := by decide +kernel

end Command

end SourceModel
