import SourceModel.Engine

namespace SourceModel

def runSteps : List EngineHook → Workbench → Except LifecycleError Unit × Workbench
  | [], bench => (.ok (), bench)
  | step :: rest, bench =>
    match step bench with
    | (.error e, bench') => (.error e, bench')
    | (.ok (), bench') => runSteps rest bench'

theorem runSteps_append (steps steps' : List EngineHook) (bench : Workbench) :
    runSteps (steps ++ steps') bench =
      match runSteps steps bench with
      | (.error e, bench') => (.error e, bench')
      | (.ok (), bench') => runSteps steps' bench' := by
  induction steps generalizing bench with
  | nil => rfl
  | cons step rest ih =>
    rw [List.cons_append, runSteps, runSteps]
    rcases step bench with ⟨outcome, bench'⟩
    cases outcome with
    | error e => rfl
    | ok _ => exact ih bench'

theorem runSteps_cons_eq_ok {step : EngineHook} {rest : List EngineHook}
    {bench bench'' : Workbench} (ended : runSteps (step :: rest) bench = (.ok (), bench'')) :
    ∃ bench', step bench = (.ok (), bench') ∧ runSteps rest bench' = (.ok (), bench'') := by
  rw [runSteps] at ended
  split at ended
  · cases ended
  · rename_i bench' called
    exact ⟨bench', called, ended⟩

theorem runSteps_append_eq_ok {steps steps' : List EngineHook} {bench bench'' : Workbench}
    (ended : runSteps (steps ++ steps') bench = (.ok (), bench'')) :
    ∃ bench', runSteps steps bench = (.ok (), bench') ∧
      runSteps steps' bench' = (.ok (), bench'') := by
  rw [runSteps_append] at ended
  split at ended
  · cases ended
  · rename_i bench' first
    exact ⟨bench', first, ended⟩

theorem runSteps_append_ok {steps steps' : List EngineHook} {bench bench' : Workbench}
    (ended : runSteps steps bench = (.ok (), bench')) :
    runSteps (steps ++ steps') bench = runSteps steps' bench' := by
  rw [runSteps_append, ended]

theorem runSteps_of_failed {before after : List EngineHook} {step : EngineHook}
    {bench bench' bench'' : Workbench} {e : LifecycleError}
    (ended : runSteps before bench = (.ok (), bench')) (failed : step bench' = (.error e, bench'')) :
    runSteps (before ++ step :: after) bench = (.error e, bench'') := by
  rw [runSteps_append_ok ended, runSteps, failed]

theorem runSteps_keeps (Invariant : Workbench → Prop) {steps : List EngineHook}
    (kept : ∀ step ∈ steps, ∀ bench, Invariant bench → Invariant (step bench).2)
    {bench : Workbench} (initially : Invariant bench) : Invariant (runSteps steps bench).2 := by
  induction steps generalizing bench with
  | nil => exact initially
  | cons step rest ih =>
    have first : Invariant (step bench).2 := kept step List.mem_cons_self bench initially
    rw [runSteps]
    rcases called : step bench with ⟨outcome, bench'⟩
    rw [called] at first
    cases outcome with
    | error e => exact first
    | ok _ => exact ih (fun step mem => kept step (List.mem_cons_of_mem _ mem)) first

namespace Lifecycle

variable {μ γ : Type}

theorem hooksOf_addHook (l : Lifecycle μ γ) (phase other : LifecyclePhase)
    (hook : LifecycleHook μ γ) :
    (l.addHook phase hook).hooksOf other =
      if phase = other then l.hooksOf other ++ [hook] else l.hooksOf other := by
  by_cases same : phase = other
  · subst same
    simp [hooksOf, addHook, OrderedMap.get?_insert]
  · simp [hooksOf, addHook, OrderedMap.get?_insert, same]

theorem runPhase_eq (l : Lifecycle μ γ) (phase : LifecyclePhase) (context : γ) :
    (l.runPhase phase context).1 = (callHooks (l.hooksOf phase) context).1 ∧
      (l.runPhase phase context).2.2 = (callHooks (l.hooksOf phase) context).2.2 ∧
      ∀ other, (l.runPhase phase context).2.1.hooksOf other =
        if phase = other then (callHooks (l.hooksOf phase) context).2.1 else l.hooksOf other := by
  unfold runPhase
  split
  · rename_i none
    refine ⟨by simp [hooksOf, none, callHooks], by simp [hooksOf, none, callHooks], fun other => ?_⟩
    by_cases same : phase = other
    · subst same
      simp [hooksOf, none, callHooks]
    · rw [if_neg same]
  · rename_i hooks some
    refine ⟨by simp [hooksOf, some], by simp [hooksOf, some], fun other => ?_⟩
    by_cases same : phase = other
    · subst same
      simp [hooksOf, some, OrderedMap.get?_insert]
    · simp [hooksOf, OrderedMap.get?_insert, same]

end Lifecycle

def EngineHook.hook (step : EngineHook) : LifecycleHook Unit Workbench :=
  ⟨(), fun _ bench => match step bench with
    | (outcome, bench') => (outcome, (), bench')⟩

theorem EngineHook.call_hook (step : EngineHook) (bench : Workbench) :
    step.hook.call bench = ((step bench).1, step.hook, (step bench).2) := rfl

theorem callHooks_map_hook (steps : List EngineHook) (bench : Workbench) :
    callHooks (steps.map EngineHook.hook) bench =
      ((runSteps steps bench).1, steps.map EngineHook.hook, (runSteps steps bench).2) := by
  induction steps generalizing bench with
  | nil => rfl
  | cons step rest ih =>
    rw [List.map_cons, callHooks, EngineHook.call_hook, runSteps]
    rcases step bench with ⟨outcome, bench'⟩
    cases outcome with
    | error e => rfl
    | ok _ => simp only [ih]

def Holds (l : EngineLifecycle) (steps : LifecyclePhase → List EngineHook) : Prop :=
  ∀ phase, l.hooksOf phase = (steps phase).map EngineHook.hook

/-- Each action starts where the one before it ended, and none stops the lifecycle. -/
def Follows : LifecycleState → List LifecycleAction → Prop
  | _, [] => True
  | state, action :: rest => state = action.source ∧ action ≠ .stopping ∧ Follows action.target rest

namespace Holds

variable {l : EngineLifecycle} {steps : LifecyclePhase → List EngineHook}

theorem runPhase (holds : Holds l steps) (phase : LifecyclePhase) (bench : Workbench) :
    ∃ l', l.runPhase phase bench =
        ((runSteps (steps phase) bench).1, l', (runSteps (steps phase) bench).2) ∧
      Holds l' steps := by
  obtain ⟨outcome, context, hooks⟩ := l.runPhase_eq phase bench
  rw [holds phase, callHooks_map_hook] at outcome context
  refine ⟨(l.runPhase phase bench).2.1, ?_, fun other => ?_⟩
  · rw [← outcome, ← context]
  · rw [hooks other, holds phase, callHooks_map_hook]
    split
    · rename_i same
      rw [same]
    · exact holds other

theorem advance (holds : Holds l steps) {action : LifecycleAction}
    (inTurn : l.state = action.source) (starts : action ≠ .stopping) (bench : Workbench) :
    ∃ l', l.advance action bench =
        ((runSteps (steps action.phase) bench).1, l', (runSteps (steps action.phase) bench).2) ∧
      Holds l' steps ∧
      ((runSteps (steps action.phase) bench).1 = .ok () → l'.state = action.target) := by
  obtain ⟨l', run, holds'⟩ := holds.runPhase action.phase bench
  rcases ended : runSteps (steps action.phase) bench with ⟨outcome, bench'⟩
  rw [ended] at run
  simp only [Lifecycle.advance, Lifecycle.transition, inTurn, if_true, run]
  cases outcome with
  | error e => exact ⟨l', rfl, holds', fun ended => by cases ended⟩
  | ok _ =>
    refine ⟨{ l' with state := action.target }, ?_, holds', fun _ => rfl⟩
    simp only [if_neg starts]

theorem advanceAll {actions : List LifecycleAction} (holds : Holds l steps)
    (follows : Follows l.state actions) (bench : Workbench) :
    ∃ l', l.advanceAll actions bench =
      ((runSteps (actions.flatMap fun action => steps action.phase) bench).1, l',
        (runSteps (actions.flatMap fun action => steps action.phase) bench).2) := by
  -- The lifecycle changes on the way; what carries the induction is that it holds the same steps.
  induction actions generalizing l bench with
  | nil => exact ⟨l, rfl⟩
  | cons action rest ih =>
    obtain ⟨inTurn, starts, following⟩ := follows
    obtain ⟨l', advanced, holds', state⟩ := holds.advance inTurn starts bench
    rw [Lifecycle.advanceAll, advanced, List.flatMap_cons, runSteps_append]
    rcases ended : runSteps (steps action.phase) bench with ⟨outcome, bench'⟩
    cases outcome with
    | error e => exact ⟨l', rfl⟩
    | ok _ =>
      rw [ended] at state
      rw [← state rfl] at following
      exact ih holds' following bench'

end Holds

end SourceModel
