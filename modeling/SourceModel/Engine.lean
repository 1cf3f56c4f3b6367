import SourceModel.Config
import SourceModel.Dialect
import SourceModel.Failure

namespace SourceModel

structure Workbench where
  registry : Registry
  journal : List String := []

abbrev EngineLifecycle := Lifecycle Unit Workbench

abbrev EngineHook := Workbench → Except LifecycleError Unit × Workbench

structure EngineBuilder where
  config : Config
  lifecycle : EngineLifecycle

structure Engine where
  config : Config
  registry : Registry
  lifecycle : EngineLifecycle

namespace EngineBuilder

def on (b : EngineBuilder) (phase : LifecyclePhase) (hook : EngineHook) : EngineBuilder :=
  { b with
    lifecycle := b.lifecycle.addHook phase
      ⟨(), fun _ bench => match hook bench with
        | (outcome, bench') => (outcome, (), bench')⟩ }

def changing (change : Registry → Registry) : EngineHook := fun bench =>
  (.ok (), { bench with registry := change bench.registry })

def installing (dialect : String) : EngineHook := fun bench =>
  match Dialect.find? dialect with
  | some found => changing found.install bench
  | none => (.error (.hookFailed .preLoad (Dialect.unknownMessage dialect)), bench)

def new (config : Config) : EngineBuilder :=
  (EngineBuilder.mk config .new).on .preLoad (installing config.dialect)

def withRenderer (b : EngineBuilder) (kind : NodeKind) (renderer : Renderer) : EngineBuilder :=
  b.on .preResolve (changing fun registry => registry.register kind renderer)

def withRegistry (b : EngineBuilder) (overrides : Registry) : EngineBuilder :=
  b.on .preResolve (changing fun registry => registry.extend overrides)

def withRenderFunction (b : EngineBuilder) (kind : NodeKind) (renderer : Renderer) :
    EngineBuilder :=
  b.withRegistry ((Registry.empty b.config.dialect).register kind renderer)

def build (b : EngineBuilder) : Except Failure Engine × List String :=
  match b.lifecycle.runToStart ⟨.empty b.config.dialect, []⟩ with
  | (.ok (), lifecycle, bench) => (.ok ⟨b.config, bench.registry, lifecycle⟩, bench.journal)
  | (.error e, _, bench) => (.error (.lifecycle e), bench.journal)

end EngineBuilder

namespace Engine

def new (config : Config) : Except Failure Engine := (EngineBuilder.new config).build.1

def generator (engine : Engine) : Generator :=
  engine.registry.generator engine.config.formatting .empty

def render (engine : Engine) (node : Node) : Rendering Fragment := engine.generator.on node

def fileText (engine : Engine) (file : SourceFile) : Except Failure String :=
  match (engine.render (.file file)).outcome with
  | .ok fragment => .ok fragment.textOrEmpty
  | .error e => .error (.render e)

def stop (engine : Engine) : Except Failure Unit × List String :=
  match engine.lifecycle.advance .stopping ⟨engine.registry, []⟩ with
  | (.ok (), _, bench) => (.ok (), bench.journal)
  | (.error e, _, bench) => (.error (.lifecycle e), bench.journal)

end Engine

structure RenderedFile where
  file : SourceFile
  text : String

def RenderedFile.path (rendered : RenderedFile) : String := rendered.file.name

def Engine.renderFile (engine : Engine) (file : SourceFile) : Except Failure RenderedFile :=
  (engine.fileText file).map fun text => ⟨file, text⟩

end SourceModel
