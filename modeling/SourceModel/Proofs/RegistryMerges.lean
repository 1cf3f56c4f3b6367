import SourceModel.Proofs.BuilderOrder
import SourceModel.Proofs.RegistryHistory

namespace SourceModel

open EngineBuilder (changing)

namespace Registry

theorem kinds_extend (a b : Registry) :
    (a.extend b).kinds = a.kinds ++ b.kinds.filter (· ∉ a.kinds) :=
  a.renderers.keys_insertAll b.renderers

theorem get?_extend (a b : Registry) (kind : NodeKind) :
    (a.extend b).renderers.get? kind = (b.renderers.get? kind).or (a.renderers.get? kind) :=
  a.renderers.get?_insertAll b.renderers kind

theorem extend_assoc (a b c : Registry) : (a.extend b).extend c = a.extend (b.extend c) :=
  congrArg (Registry.mk a.dialect) (a.renderers.insertAll_assoc b.renderers c.renderers)

theorem extend_self (a : Registry) : a.extend a = a :=
  congrArg (Registry.mk a.dialect) a.renderers.insertAll_self

theorem extend_extend_self (a b : Registry) : (a.extend b).extend b = a.extend b := by
  rw [extend_assoc, extend_self]

end Registry

theorem runSteps_append_congr {steps steps' : List EngineHook}
    (same : ∀ bench, runSteps steps bench = runSteps steps' bench) (before : List EngineHook)
    (bench : Workbench) :
    runSteps (before ++ steps) bench = runSteps (before ++ steps') bench := by
  rw [runSteps_append, runSteps_append]
  rcases runSteps before bench with ⟨outcome, bench'⟩
  cases outcome with
  | error e => rfl
  | ok _ => exact same bench'

theorem stepsOf_append (phase : LifecyclePhase) (before after : List BuilderCall) :
    stepsOf phase (before ++ after) = stepsOf phase before ++ stepsOf phase after := by
  simp only [stepsOf, callsOf, List.filter_append, List.map_append]

theorem stepsOf_cons_of_ne {phase : LifecyclePhase} (call : BuilderCall)
    (other : call.phase ≠ phase) (rest : List BuilderCall) :
    stepsOf phase (call :: rest) = stepsOf phase rest := by
  rw [stepsOf_cons, if_neg other, List.nil_append]

/-- The two merges are steps of the resolution next to each other, and all other steps are the same
as with one merge. -/
theorem runSteps_startUpSteps_withRegistry (dialect : String) (before after : List BuilderCall)
    (b c : Registry) (bench : Workbench) :
    runSteps (startUpSteps dialect
        (before ++ .withRegistry b :: .withRegistry c :: after)) bench =
      runSteps (startUpSteps dialect (before ++ .withRegistry (b.extend c) :: after)) bench := by
  have resolves (overrides : Registry) :
      (BuilderCall.withRegistry overrides).phase = .preResolve := rfl
  have apart (phase : LifecyclePhase) (other : .preResolve ≠ phase) :
      stepsOf phase (before ++ .withRegistry b :: .withRegistry c :: after) =
        stepsOf phase (before ++ .withRegistry (b.extend c) :: after) := by
    have passed (overrides : Registry) (rest : List BuilderCall) :
        stepsOf phase (.withRegistry overrides :: rest) = stepsOf phase rest :=
      stepsOf_cons_of_ne (.withRegistry overrides) other rest
    rw [stepsOf_append, stepsOf_append, passed, passed, passed]
  have resolution : stepsOf .preResolve (.withRegistry c :: after) =
      (BuilderCall.withRegistry c).step :: stepsOf .preResolve after := rfl
  have merged (rest : List EngineHook) (bench : Workbench) :
      runSteps ((BuilderCall.withRegistry b).step :: (BuilderCall.withRegistry c).step :: rest)
          bench =
        runSteps ((BuilderCall.withRegistry (b.extend c)).step :: rest) bench := by
    have same := Registry.extend_assoc bench.registry b c
    simp only [runSteps, BuilderCall.step, changing, same]
  rw [startUpSteps_split dialect (resolves b) before,
    startUpSteps_split dialect (resolves (b.extend c)) before,
    apart .preInitialize (by decide), apart .preLoad (by decide), apart .preStart (by decide),
    resolution]
  exact runSteps_append_congr (merged _) _ bench

theorem outcome_withRegistry_withRegistry (config : Config) (before after : List BuilderCall)
    (b c : Registry) :
    (EngineBuilder.ofCalls config (before ++ .withRegistry b :: .withRegistry c :: after)).outcome =
      (EngineBuilder.ofCalls config (before ++ .withRegistry (b.extend c) :: after)).outcome := by
  rw [outcome_eq_runSteps, outcome_eq_runSteps, runSteps_startUpSteps_withRegistry]

/-- A merge keeps the kinds where they are, appends the new ones and takes every renderer of the
later registry. It is associative, a second merge of the same registry changes nothing, and a
builder does not tell two registries in a row from their merge. -/
theorem extend_assoc_and_outcome_withRegistry (a b c : Registry) :
    ((a.extend b).dialect = a.dialect ∧
      (a.extend b).kinds = a.kinds ++ b.kinds.filter (· ∉ a.kinds) ∧
      ∀ kind, (a.extend b).renderers.get? kind =
        (b.renderers.get? kind).or (a.renderers.get? kind)) ∧
    (a.extend b).extend c = a.extend (b.extend c) ∧
    a.extend a = a ∧
    (a.extend b).extend b = a.extend b ∧
    ∀ (config : Config) (before after : List BuilderCall),
      (EngineBuilder.ofCalls config
          (before ++ .withRegistry b :: .withRegistry c :: after)).outcome =
        (EngineBuilder.ofCalls config (before ++ .withRegistry (b.extend c) :: after)).outcome :=
  ⟨⟨rfl, Registry.kinds_extend a b, Registry.get?_extend a b⟩, Registry.extend_assoc a b c,
    Registry.extend_self a, Registry.extend_extend_self a b,
    fun config before after => outcome_withRegistry_withRegistry config before after b c⟩

end SourceModel
