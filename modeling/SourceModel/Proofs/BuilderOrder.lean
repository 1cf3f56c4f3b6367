import SourceModel.Proofs.HookOrder

namespace SourceModel

open EngineBuilder (changing installing)

inductive BuilderCall
  | withRenderer (kind : NodeKind) (renderer : Renderer)
  | withRenderFunction (kind : NodeKind) (renderer : Renderer)
  | withRegistry (overrides : Registry)
  | on (phase : LifecyclePhase) (hook : EngineHook)

namespace BuilderCall

def apply (b : EngineBuilder) : BuilderCall → EngineBuilder
  | .withRenderer kind renderer => b.withRenderer kind renderer
  | .withRenderFunction kind renderer => b.withRenderFunction kind renderer
  | .withRegistry overrides => b.withRegistry overrides
  | .on phase hook => b.on phase hook

def phase : BuilderCall → LifecyclePhase
  | .on phase _ => phase
  | _ => .preResolve

def step : BuilderCall → EngineHook
  | .withRenderer kind renderer => changing fun registry => registry.register kind renderer
  | .withRenderFunction kind renderer => changing fun registry => registry.register kind renderer
  | .withRegistry overrides => changing fun registry => registry.extend overrides
  | .on _ hook => hook

def override? (kind : NodeKind) : BuilderCall → Option Renderer
  | .withRenderer own renderer => if own = kind then some renderer else none
  | .withRenderFunction own renderer => if own = kind then some renderer else none
  | .withRegistry overrides => overrides.renderers.get? kind
  | .on _ _ => none

theorem apply_eq (b : EngineBuilder) (call : BuilderCall) :
    call.apply b = b.on call.phase call.step := by
  cases call <;> rfl

end BuilderCall

def callsOf (phase : LifecyclePhase) (calls : List BuilderCall) : List BuilderCall :=
  calls.filter fun call => call.phase = phase

def stepsOf (phase : LifecyclePhase) (calls : List BuilderCall) : List EngineHook :=
  (callsOf phase calls).map BuilderCall.step

/-- The steps of building, in their order. -/
def startUpSteps (dialect : String) (calls : List BuilderCall) : List EngineHook :=
  stepsOf .preInitialize calls ++ installing dialect ::
    (stepsOf .preLoad calls ++ (stepsOf .preResolve calls ++ stepsOf .preStart calls))

namespace EngineBuilder

def ofCalls (config : Config) (calls : List BuilderCall) : EngineBuilder :=
  calls.foldl BuilderCall.apply (new config)

def outcome (b : EngineBuilder) : Except Failure Registry × List String :=
  (b.build.1.map Engine.registry, b.build.2)

end EngineBuilder

theorem stepsOf_cons (phase : LifecyclePhase) (call : BuilderCall) (rest : List BuilderCall) :
    stepsOf phase (call :: rest) =
      (if call.phase = phase then [call.step] else []) ++ stepsOf phase rest := by
  by_cases own : call.phase = phase <;> simp [stepsOf, callsOf, own]

theorem Holds.on {b : EngineBuilder} {steps : LifecyclePhase → List EngineHook}
    (holds : Holds b.lifecycle steps) (phase : LifecyclePhase) (hook : EngineHook) :
    Holds (b.on phase hook).lifecycle fun other =>
      steps other ++ if phase = other then [hook] else [] := by
  intro other
  have hooks : (b.on phase hook).lifecycle.hooksOf other =
      if phase = other then b.lifecycle.hooksOf other ++ [hook.hook]
      else b.lifecycle.hooksOf other :=
    b.lifecycle.hooksOf_addHook phase other hook.hook
  rw [hooks, holds other]
  by_cases own : phase = other <;> simp [own]

theorem Holds.foldl_apply {b : EngineBuilder} {steps : LifecyclePhase → List EngineHook}
    (holds : Holds b.lifecycle steps) (calls : List BuilderCall) :
    Holds (calls.foldl BuilderCall.apply b).lifecycle fun phase =>
      steps phase ++ stepsOf phase calls := by
  induction calls generalizing b steps with
  | nil => simpa [stepsOf, callsOf] using holds
  | cons call rest ih =>
    have first := holds.on call.phase call.step
    rw [← call.apply_eq] at first
    have others := ih first
    simpa only [List.foldl_cons, stepsOf_cons, List.append_assoc] using others

theorem foldl_apply_config_state (b : EngineBuilder) (calls : List BuilderCall) :
    (calls.foldl BuilderCall.apply b).config = b.config ∧
      (calls.foldl BuilderCall.apply b).lifecycle.state = b.lifecycle.state := by
  induction calls generalizing b with
  | nil => exact ⟨rfl, rfl⟩
  | cons call rest ih =>
    obtain ⟨config, state⟩ := ih (call.apply b)
    rw [List.foldl_cons, config, state, call.apply_eq]
    exact ⟨rfl, rfl⟩

theorem holds_ofCalls (config : Config) (calls : List BuilderCall) :
    Holds (EngineBuilder.ofCalls config calls).lifecycle fun phase =>
      (if phase = .preLoad then [installing config.dialect] else []) ++ stepsOf phase calls := by
  have bare : Holds (EngineBuilder.mk config .new).lifecycle fun _ => [] := fun _ => rfl
  have fresh := bare.on .preLoad (installing config.dialect)
  simp only [List.nil_append, eq_comm (a := LifecyclePhase.preLoad)] at fresh
  exact fresh.foldl_apply calls

theorem outcome_eq_runSteps (config : Config) (calls : List BuilderCall) :
    (EngineBuilder.ofCalls config calls).outcome =
      match runSteps (startUpSteps config.dialect calls) ⟨.empty config.dialect, []⟩ with
      | (.ok (), bench) => (.ok bench.registry, bench.journal)
      | (.error e, bench) => (.error (.lifecycle e), bench.journal) := by
  obtain ⟨configEq, state⟩ := foldl_apply_config_state (.new config) calls
  have follows : Follows (EngineBuilder.ofCalls config calls).lifecycle.state
      LifecycleAction.startUp := by
    rw [show (EngineBuilder.ofCalls config calls).lifecycle.state = .created from state]
    simp [Follows, LifecycleAction.startUp, LifecycleAction.source, LifecycleAction.target]
  obtain ⟨l, run⟩ :=
    (holds_ofCalls config calls).advanceAll follows ⟨.empty config.dialect, []⟩
  have steps : (LifecycleAction.startUp.flatMap fun action =>
      (if action.phase = .preLoad then [installing config.dialect] else []) ++
        stepsOf action.phase calls) = startUpSteps config.dialect calls := by
    simp [LifecycleAction.startUp, LifecycleAction.phase, startUpSteps]
  rw [steps] at run
  have config' : (EngineBuilder.ofCalls config calls).config = config := configEq
  simp only [EngineBuilder.outcome, EngineBuilder.build, Lifecycle.runToStart, config', run]
  rcases runSteps (startUpSteps config.dialect calls) ⟨.empty config.dialect, []⟩ with
    ⟨outcome, bench⟩
  cases outcome with
  | error e => rfl
  | ok _ => rfl

theorem runSteps_of_outcome {config : Config} {calls : List BuilderCall} {registry : Registry}
    (built : (EngineBuilder.ofCalls config calls).outcome.1 = .ok registry) :
    ∃ bench, runSteps (startUpSteps config.dialect calls) ⟨.empty config.dialect, []⟩ =
        (.ok (), bench) ∧ bench.registry = registry := by
  rw [outcome_eq_runSteps] at built
  split at built
  · rename_i bench ended
    exact ⟨bench, ended, Except.ok.inj built⟩
  · cases built

def EngineHook.Keeps (kind : NodeKind) (step : EngineHook) : Prop :=
  ∀ bench, (step bench).2.registry.renderers.get? kind = bench.registry.renderers.get? kind

theorem BuilderCall.get?_step {call : BuilderCall} {kind : NodeKind} {renderer : Renderer}
    (override : call.override? kind = some renderer) (bench : Workbench) :
    (call.step bench).2.registry.renderers.get? kind = some renderer := by
  cases call with
  | withRenderer own renderer' | withRenderFunction own renderer' =>
    simp only [override?, Option.ite_none_right_eq_some] at override
    obtain ⟨rfl, ⟨⟩⟩ := override
    simp [step, changing, Registry.register, OrderedMap.get?_insert]
  | withRegistry overrides =>
    have merged := OrderedMap.get?_insertAll bench.registry.renderers overrides.renderers kind
    have own : overrides.renderers.get? kind = some renderer := override
    rw [own, Option.some_or] at merged
    exact merged
  | on phase hook => cases override

theorem BuilderCall.phase_of_override {call : BuilderCall} {kind : NodeKind} {renderer : Renderer}
    (override : call.override? kind = some renderer) : call.phase = .preResolve := by
  cases call with
  | on phase hook => cases override
  | _ => rfl

theorem get?_of_runSteps {earlier later : List EngineHook} {step : EngineHook} {kind : NodeKind}
    {renderer : Renderer} {start bench : Workbench}
    (set : ∀ bench, (step bench).2.registry.renderers.get? kind = some renderer)
    (kept : ∀ step ∈ later, step.Keeps kind)
    (ran : runSteps (earlier ++ step :: later) start = (.ok (), bench)) :
    bench.registry.renderers.get? kind = some renderer := by
  obtain ⟨bench₁, -, behind⟩ := runSteps_append_eq_ok ran
  obtain ⟨bench₂, called, rest⟩ := runSteps_cons_eq_ok behind
  have own : bench₂.registry.renderers.get? kind = some renderer := by
    have renderers := set bench₁
    rwa [called] at renderers
  have stays := runSteps_keeps (fun bench => bench.registry.renderers.get? kind = some renderer)
    (fun step mem bench held => (kept step mem bench).trans held) own
  rwa [rest] at stays

theorem startUpSteps_split (dialect : String) {call : BuilderCall}
    (resolves : call.phase = .preResolve) (before after : List BuilderCall) :
    startUpSteps dialect (before ++ call :: after) =
      (stepsOf .preInitialize (before ++ call :: after) ++ installing dialect ::
        (stepsOf .preLoad (before ++ call :: after) ++ stepsOf .preResolve before)) ++
      call.step :: (stepsOf .preResolve after ++ stepsOf .preStart (before ++ call :: after)) := by
  have resolution : stepsOf .preResolve (before ++ call :: after) =
      stepsOf .preResolve before ++ call.step :: stepsOf .preResolve after := by
    simp [stepsOf, callsOf, resolves]
  rw [startUpSteps, resolution]
  simp only [List.append_assoc, List.cons_append]

/-- Building runs the steps of the calls phase by phase, up to the first that fails; calls that
agree phase by phase, stopping aside, build the same; and an override comes behind the dialect and
stays unless a later step takes it away. -/
theorem outcome_ofCalls (config : Config) (calls : List BuilderCall) :
    let outcome := fun calls => (EngineBuilder.ofCalls config calls).outcome
    let start : Workbench := ⟨.empty config.dialect, []⟩
    (outcome calls =
      match runSteps (startUpSteps config.dialect calls) start with
      | (.ok (), bench) => (.ok bench.registry, bench.journal)
      | (.error e, bench) => (.error (.lifecycle e), bench.journal)) ∧
    (∀ before step after bench e bench',
      startUpSteps config.dialect calls = before ++ step :: after →
      runSteps before start = (.ok (), bench) → step bench = (.error e, bench') →
      outcome calls = (.error (.lifecycle e), bench'.journal)) ∧
    (∀ calls',
      (∀ phase, phase ≠ .preStop → phase ≠ .postStop → callsOf phase calls' = callsOf phase calls) →
      outcome calls' = outcome calls) ∧
    ∀ before call after kind renderer, calls = before ++ call :: after →
      call.override? kind = some renderer →
      let earlier := stepsOf .preInitialize calls ++ installing config.dialect ::
        (stepsOf .preLoad calls ++ stepsOf .preResolve before)
      let later := stepsOf .preResolve after ++ stepsOf .preStart calls
      startUpSteps config.dialect calls = earlier ++ call.step :: later ∧
        (∀ bench, (call.step bench).2.registry.renderers.get? kind = some renderer) ∧
        ((∀ step ∈ later, step.Keeps kind) → ∀ registry, (outcome calls).1 = .ok registry →
          registry.renderers.get? kind = some renderer) := by
  intro outcome start
  have built : ∀ calls, outcome calls =
      match runSteps (startUpSteps config.dialect calls) start with
      | (.ok (), bench) => (.ok bench.registry, bench.journal)
      | (.error e, bench) => (.error (.lifecycle e), bench.journal) :=
    outcome_eq_runSteps config
  refine ⟨built calls, ?_, ?_, ?_⟩
  · intro before step after bench e bench' split ended failed
    rw [built, split, runSteps_of_failed ended failed]
  · intro calls' same
    have steps : startUpSteps config.dialect calls' = startUpSteps config.dialect calls := by
      simp only [startUpSteps, stepsOf, same .preInitialize nofun nofun,
        same .preLoad nofun nofun, same .preResolve nofun nofun, same .preStart nofun nofun]
    rw [built, built, steps]
  · rintro before call after kind renderer rfl override earlier later
    have split := startUpSteps_split config.dialect (call.phase_of_override override) before after
    refine ⟨split, call.get?_step override, fun kept registry ended => ?_⟩
    obtain ⟨bench, ran, rfl⟩ := runSteps_of_outcome ended
    -- The installation of the dialect comes before the override, so only later steps can undo it.
    rw [split] at ran
    exact get?_of_runSteps (call.get?_step override) kept ran

def noting (text : String) : EngineHook := fun bench =>
  (.ok (), { bench with journal := bench.journal ++ [text] })

def failing (phase : LifecyclePhase) (message : String) : EngineHook := fun bench =>
  (.error (.hookFailed phase message), bench)

def elided : Renderer where
  render _ _ := pure (.present "/* elided */")
  reach := 0
  label := none

def elidingCalls : List BuilderCall :=
  [.on .preStart (noting "start"), .withRenderFunction .statement elided,
   .on .preLoad (noting "load"), .on .preStop (noting "stop")]

def refusingCalls : List BuilderCall :=
  [.on .preStart (noting "start"), .on .preResolve (failing .preResolve "refused"),
   .on .preLoad (noting "load")]

theorem outcome_ofCalls_elidingCalls :
    (EngineBuilder.ofCalls .standard refusingCalls).outcome =
        (.error (.lifecycle (.hookFailed .preResolve "refused")), ["load"]) ∧
    (EngineBuilder.ofCalls .standard
        [.withRenderFunction .statement elided, .on .preLoad (noting "load"),
         .on .preStart (noting "start")]).outcome =
      (EngineBuilder.ofCalls .standard elidingCalls).outcome ∧
    ∃ registry, (EngineBuilder.ofCalls .standard elidingCalls).outcome.1 = .ok registry ∧
      registry.renderers.get? .statement = some elided := by
  refine ⟨?_, ?_, ?_⟩
  · exact (outcome_ofCalls .standard refusingCalls).2.1
      [installing "java", noting "load"] (failing .preResolve "refused") [noting "start"]
      _ _ _ rfl rfl rfl
  · apply (outcome_ofCalls .standard elidingCalls).2.2.1
    intro phase notStop notPost
    cases phase with
    | preStop => exact absurd rfl notStop
    | postStop => exact absurd rfl notPost
    | _ => rfl
  · obtain ⟨-, -, kept⟩ := (outcome_ofCalls .standard elidingCalls).2.2.2
      [.on .preStart (noting "start")] (.withRenderFunction .statement elided)
      [.on .preLoad (noting "load"), .on .preStop (noting "stop")] .statement elided rfl rfl
    refine ⟨_, rfl, kept ?_ _ rfl⟩
    intro step mem bench
    change step ∈ [noting "start"] at mem
    obtain rfl := List.mem_singleton.mp mem
    rfl

end SourceModel
