import Mathlib.Logic.Function.Basic
import SourceModel.Proofs.HookOrder

namespace SourceModel

variable {μ γ : Type}

/-- The hooks are called one after the other and all end well, which turns them into the second
list and the context into the second context. -/
inductive EndWell : List (LifecycleHook μ γ) → γ → List (LifecycleHook μ γ) → γ → Prop
  | nil (context : γ) : EndWell [] context [] context
  | cons {hook hook' : LifecycleHook μ γ} {rest rest' : List (LifecycleHook μ γ)}
      {context context' context'' : γ} (called : hook.call context = (.ok (), hook', context'))
      (others : EndWell rest context' rest' context'') :
      EndWell (hook :: rest) context (hook' :: rest') context''

/-- The hooks before the first that fails end well, that hook fails with the error, and those
behind it are not called. -/
def FailsFirst (e : LifecycleError) (hooks : List (LifecycleHook μ γ)) (context : γ)
    (hooks' : List (LifecycleHook μ γ)) (context' : γ) : Prop :=
  ∃ before hook after before' between hook',
    hooks = before ++ hook :: after ∧ EndWell before context before' between ∧
      hook.call between = (.error e, hook', context') ∧ hooks' = before' ++ hook' :: after

theorem EndWell.callHooks {hooks hooks' : List (LifecycleHook μ γ)} {context context' : γ}
    (ended : EndWell hooks context hooks' context') :
    callHooks hooks context = (.ok (), hooks', context') := by
  induction ended with
  | nil context => rfl
  | cons called _ ih => simp only [SourceModel.callHooks, called, ih]

theorem FailsFirst.callHooks {e : LifecycleError} {hooks hooks' : List (LifecycleHook μ γ)}
    {context context' : γ} (failed : FailsFirst e hooks context hooks' context') :
    callHooks hooks context = (.error e, hooks', context') := by
  obtain ⟨before, hook, after, before', between, hook', rfl, ended, called, rfl⟩ := failed
  induction ended with
  | nil context => simp only [List.nil_append, SourceModel.callHooks, called]
  | cons first _ ih => simp only [List.cons_append, SourceModel.callHooks, first, ih called]

theorem endWell_or_failsFirst (hooks : List (LifecycleHook μ γ)) (context : γ) :
    ∃ hooks' context', EndWell hooks context hooks' context' ∨
      ∃ e, FailsFirst e hooks context hooks' context' := by
  induction hooks generalizing context with
  | nil => exact ⟨[], context, .inl (.nil context)⟩
  | cons hook rest ih =>
    rcases called : hook.call context with ⟨outcome, hook', context'⟩
    cases outcome with
    | error e =>
      exact ⟨hook' :: rest, context', .inr ⟨e, [], hook, rest, [], context, hook', rfl,
        .nil context, called, rfl⟩⟩
    | ok _ =>
      obtain ⟨rest', context'', ended | ⟨e, before, next, after, before', between, next', rfl,
        ended, failed, rfl⟩⟩ := ih context'
      · exact ⟨hook' :: rest', context'', .inl (.cons called ended)⟩
      · exact ⟨hook' :: (before' ++ next' :: after), context'', .inr ⟨e, hook :: before, next,
          after, hook' :: before', between, next', rfl, .cons called ended, failed, rfl⟩⟩

theorem callHooks_eq_ok_iff {hooks hooks' : List (LifecycleHook μ γ)} {context context' : γ} :
    callHooks hooks context = (.ok (), hooks', context') ↔
      EndWell hooks context hooks' context' := by
  refine ⟨fun ran => ?_, EndWell.callHooks⟩
  obtain ⟨_, _, ended | ⟨e, failed⟩⟩ := endWell_or_failsFirst hooks context
  · rw [ended.callHooks] at ran
    cases ran
    exact ended
  · rw [failed.callHooks] at ran
    cases ran

namespace Lifecycle

theorem hooksOf_addHook_eq_update (l : Lifecycle μ γ) (phase : LifecyclePhase)
    (hook : LifecycleHook μ γ) :
    (l.addHook phase hook).hooksOf =
      Function.update l.hooksOf phase (l.hooksOf phase ++ [hook]) := by
  funext other
  rw [hooksOf_addHook, Function.update_apply]
  by_cases same : phase = other
  · subst same
    rw [if_pos rfl]
  · rw [if_neg same, if_neg (Ne.symm same)]

def EndsWith (result : Except LifecycleError Unit × Lifecycle μ γ × γ)
    (outcome : Except LifecycleError Unit) (state : LifecycleState)
    (hooks : LifecyclePhase → List (LifecycleHook μ γ)) (context : γ) : Prop :=
  ∃ l, result = (outcome, l, context) ∧ l.state = state ∧ l.hooksOf = hooks

theorem runPhase_of_callHooks {l : Lifecycle μ γ} {phase : LifecyclePhase} {context context' : γ}
    {outcome : Except LifecycleError Unit} {hooks' : List (LifecycleHook μ γ)}
    (called : callHooks (l.hooksOf phase) context = (outcome, hooks', context')) :
    EndsWith (l.runPhase phase context) outcome l.state
      (Function.update l.hooksOf phase hooks') context' := by
  obtain ⟨outcomeEq, contextEq, hooks⟩ := l.runPhase_eq phase context
  rw [called] at outcomeEq contextEq hooks
  refine ⟨(l.runPhase phase context).2.1, Prod.ext outcomeEq (Prod.ext rfl contextEq),
    l.state_runPhase phase context, ?_⟩
  funext other
  rw [hooks, Function.update_apply]
  simp only [eq_comm]

theorem runPhase_eq_ok_iff (l : Lifecycle μ γ) (phase : LifecyclePhase) (context : γ) :
    (l.runPhase phase context).1 = .ok () ↔
      ∃ hooks' context', EndWell (l.hooksOf phase) context hooks' context' := by
  obtain ⟨outcome, -⟩ := l.runPhase_eq phase context
  rw [outcome]
  constructor
  · intro ended
    exact ⟨_, _, callHooks_eq_ok_iff.mp (Prod.ext ended rfl)⟩
  · rintro ⟨hooks', context', ended⟩
    rw [ended.callHooks]

section
variable {l : Lifecycle μ γ} {action : LifecycleAction} {context context' : γ}
  {hooks' : List (LifecycleHook μ γ)}

theorem transition_of_endWell (inTurn : l.state = action.source)
    (ended : EndWell (l.hooksOf action.phase) context hooks' context') :
    EndsWith (l.transition action context) (.ok ()) action.target
      (Function.update l.hooksOf action.phase hooks') context' := by
  obtain ⟨l', ran, -, hooks⟩ := runPhase_of_callHooks ended.callHooks
  refine ⟨{ l' with state := action.target }, ?_, rfl, hooks⟩
  rw [transition, if_pos inTurn, ran]

theorem advance_of_failsFirst {e : LifecycleError} (inTurn : l.state = action.source)
    (failed : FailsFirst e (l.hooksOf action.phase) context hooks' context') :
    EndsWith (l.advance action context) (.error e) l.state
      (Function.update l.hooksOf action.phase hooks') context' := by
  obtain ⟨l', ran, left⟩ := runPhase_of_callHooks failed.callHooks
  refine ⟨l', ?_, left⟩
  rw [advance, transition, if_pos inTurn, ran]

theorem advance_of_endWell (inTurn : l.state = action.source) (goesOn : action ≠ .stopping)
    (ended : EndWell (l.hooksOf action.phase) context hooks' context') :
    EndsWith (l.advance action context) (.ok ()) action.target
      (Function.update l.hooksOf action.phase hooks') context' := by
  obtain ⟨l', moved, left⟩ := transition_of_endWell inTurn ended
  refine ⟨l', ?_, left⟩
  rw [advance, moved]
  exact if_neg goesOn

theorem advance_stopping_of_endWell {outcome : Except LifecycleError Unit}
    {hooks'' : List (LifecycleHook μ γ)} {context'' : γ} (started : l.state = .started)
    (ended : EndWell (l.hooksOf .preStop) context hooks' context')
    (called : callHooks (l.hooksOf .postStop) context' = (outcome, hooks'', context'')) :
    EndsWith (l.advance .stopping context) outcome .stopped
      (Function.update (Function.update l.hooksOf .preStop hooks') .postStop hooks'')
      context'' := by
  have inTurn : l.state = LifecycleAction.stopping.source := started
  obtain ⟨l₁, moved, stopped, hooks₁⟩ := transition_of_endWell inTurn ended
  have same : l₁.hooksOf .postStop = l.hooksOf .postStop := by
    rw [hooks₁]
    exact Function.update_of_ne (by decide) _ _
  rw [← same] at called
  obtain ⟨l₂, ran, state, hooks₂⟩ := runPhase_of_callHooks called
  refine ⟨l₂, ?_, state.trans stopped, ?_⟩
  · rw [advance, moved]
    exact (if_pos rfl).trans ran
  · rw [hooks₂, hooks₁]
    rfl

end

inductive Completes : Lifecycle μ γ → γ → List LifecycleAction → Lifecycle μ γ → γ → Prop
  | nil (l : Lifecycle μ γ) (context : γ) : Completes l context [] l context
  | cons {l l' l'' : Lifecycle μ γ} {context context' context'' : γ} {action : LifecycleAction}
      {rest : List LifecycleAction} (performed : l.advance action context = (.ok (), l', context'))
      (others : Completes l' context' rest l'' context'') :
      Completes l context (action :: rest) l'' context''

section
variable {l l' : Lifecycle μ γ} {context context' : γ} {done : List LifecycleAction}

theorem Completes.advanceAll_append (completed : Completes l context done l' context')
    (rest : List LifecycleAction) :
    l.advanceAll (done ++ rest) context = l'.advanceAll rest context' := by
  induction completed with
  | nil => rfl
  | cons performed _ ih =>
    rw [List.cons_append, Lifecycle.advanceAll, performed]
    exact ih

theorem Completes.advanceAll (completed : Completes l context done l' context') :
    l.advanceAll done context = (.ok (), l', context') := by
  have all := completed.advanceAll_append []
  rwa [List.append_nil] at all

theorem Completes.advanceAll_of_failed (completed : Completes l context done l' context')
    {action : LifecycleAction} {e : LifecycleError} {l'' : Lifecycle μ γ} {context'' : γ}
    (failed : l'.advance action context' = (.error e, l'', context''))
    (rest : List LifecycleAction) :
    l.advanceAll (done ++ action :: rest) context = (.error e, l'', context'') := by
  rw [completed.advanceAll_append, Lifecycle.advanceAll, failed]

end

theorem completes_or_fails (l : Lifecycle μ γ) (actions : List LifecycleAction) (context : γ) :
    (∃ l' context', Completes l context actions l' context') ∨
      ∃ done action rest l' context' e l'' context'', actions = done ++ action :: rest ∧
        Completes l context done l' context' ∧
        l'.advance action context' = (.error e, l'', context'') := by
  induction actions generalizing l context with
  | nil => exact .inl ⟨l, context, .nil l context⟩
  | cons action rest ih =>
    rcases performed : l.advance action context with ⟨outcome, l', context'⟩
    cases outcome with
    | error e =>
      exact .inr ⟨[], action, rest, l, context, e, l', context', rfl, .nil l context, performed⟩
    | ok _ =>
      rcases ih l' context' with ⟨l'', context'', completed⟩ |
        ⟨done, next, later, l₁, context₁, e, l₂, context₂, rfl, completed, failed⟩
      · exact .inl ⟨l'', context'', .cons performed completed⟩
      · exact .inr ⟨action :: done, next, later, l₁, context₁, e, l₂, context₂, rfl,
          .cons performed completed, failed⟩

theorem state_of_startUp_failed {l l' : Lifecycle μ γ} {context context' : γ}
    {action : LifecycleAction} {done rest : List LifecycleAction} {e : LifecycleError}
    (split : LifecycleAction.startUp = done ++ action :: rest)
    (failed : l.advance action context = (.error e, l', context')) : l'.state = l.state := by
  have mem : action ∈ LifecycleAction.startUp := by
    rw [split]
    exact List.mem_append_right done List.mem_cons_self
  have goesOn : action ≠ .stopping := by
    rintro rfl
    revert mem
    decide
  have state := l.state_advance_of_ne_stop context goesOn
  rwa [failed] at state

/-- The hooks of a phase stand in the order in which they were registered. An action out of turn is
refused and changes nothing. In turn, the first hook that fails ends it with its error and leaves
the state, unless it stands behind the change of state; without a failure the state is the next
one. The run up to the start ends with the first of its actions that fails. -/
theorem advance_runToStart_outcome (l : Lifecycle μ γ) (context : γ) :
    ((∀ phase, (new : Lifecycle μ γ).hooksOf phase = []) ∧
      ∀ phase hook, (l.addHook phase hook).state = l.state ∧
        (l.addHook phase hook).hooksOf =
          Function.update l.hooksOf phase (l.hooksOf phase ++ [hook])) ∧
    (∀ action, l.state ≠ action.source →
      l.advance action context =
        (.error (.invalidTransition l.state action.verb), l, context)) ∧
    (∀ phase context, ∃ hooks' context', EndWell (l.hooksOf phase) context hooks' context' ∨
      ∃ e, FailsFirst e (l.hooksOf phase) context hooks' context') ∧
    (∀ action, l.state = action.source →
      (∀ e hooks' context', FailsFirst e (l.hooksOf action.phase) context hooks' context' →
        EndsWith (l.advance action context) (.error e) l.state
          (Function.update l.hooksOf action.phase hooks') context') ∧
      ∀ hooks' context', EndWell (l.hooksOf action.phase) context hooks' context' →
        (action ≠ .stopping →
          EndsWith (l.advance action context) (.ok ()) action.target
            (Function.update l.hooksOf action.phase hooks') context') ∧
        (action = .stopping → ∀ hooks'' context'',
          let left := Function.update (Function.update l.hooksOf .preStop hooks') .postStop hooks''
          (∀ e, FailsFirst e (l.hooksOf .postStop) context' hooks'' context'' →
            EndsWith (l.advance action context) (.error e) .stopped left context'') ∧
          (EndWell (l.hooksOf .postStop) context' hooks'' context'' →
            EndsWith (l.advance action context) (.ok ()) .stopped left context''))) ∧
    (l.state ≠ .created →
      l.runToStart context = (.error (.invalidTransition l.state "initialize"), l, context)) ∧
    ((∃ l' context', Completes l context LifecycleAction.startUp l' context' ∧
        l.runToStart context = (.ok (), l', context')) ∨
      ∃ done action rest l' context' e l'' context'',
        LifecycleAction.startUp = done ++ action :: rest ∧
        Completes l context done l' context' ∧
        l'.advance action context' = (.error e, l'', context'') ∧
        l.runToStart context = (.error e, l'', context'') ∧ l''.state = l'.state) := by
  refine ⟨⟨fun _ => rfl, fun phase hook => ⟨rfl, l.hooksOf_addHook_eq_update phase hook⟩⟩,
    fun action outOfTurn => advance_of_state_ne context outOfTurn,
    fun phase context => endWell_or_failsFirst (l.hooksOf phase) context, ?_, ?_, ?_⟩
  · intro action inTurn
    refine ⟨fun e hooks' context' failed => advance_of_failsFirst inTurn failed, ?_⟩
    intro hooks' context' ended
    refine ⟨fun goesOn => advance_of_endWell inTurn goesOn ended, ?_⟩
    -- Stopping has changed the state before the hooks behind it are called.
    rintro rfl hooks'' context''
    exact ⟨fun e failed => advance_stopping_of_endWell inTurn ended failed.callHooks,
      fun ended' => advance_stopping_of_endWell inTurn ended ended'.callHooks⟩
  · intro outOfTurn
    have refused : l.advance .initialization context = _ := advance_of_state_ne context outOfTurn
    rw [runToStart, LifecycleAction.startUp, advanceAll, refused]
    rfl
  · rcases l.completes_or_fails LifecycleAction.startUp context with ⟨l', context', completed⟩ |
      ⟨done, action, rest, l', context', e, l'', context'', split, completed, failed⟩
    · exact .inl ⟨l', context', completed, completed.advanceAll⟩
    · refine .inr ⟨done, action, rest, l', context', e, l'', context'', split, completed, failed,
        ?_, ?_⟩
      · rw [runToStart, split]
        exact completed.advanceAll_of_failed failed rest
      · exact state_of_startUp_failed split failed

def faltering (name : String) (phase : LifecyclePhase) (failures : Nat) :
    LifecycleHook Nat (List String) where
  memory := 0
  run calls log :=
    (if calls < failures then .error (.hookFailed phase name) else .ok (), calls + 1, log ++ [name])

def falteringLifecycle : Lifecycle Nat (List String) :=
  ((((new.addHook .preInitialize (faltering "open" .preInitialize 0)).addHook
    .preInitialize (faltering "check" .preStart 1)).addHook
    .preInitialize (faltering "list" .preInitialize 0)).addHook
    .preStop (faltering "drain" .preStop 0)).addHook
    .postStop (faltering "close" .postStop 2)

def falteringStarted : Lifecycle Nat (List String) :=
  ((falteringLifecycle.runToStart []).2.1.runToStart []).2.1

theorem advance_runToStart_outcome_faltering :
    (falteringLifecycle.state ≠ LifecycleAction.starting.source ∧
      falteringLifecycle.advance .starting [] =
        (.error (.invalidTransition .created "start"), falteringLifecycle, [])) ∧
    (∃ hooks', FailsFirst (.hookFailed .preStart "check")
        (falteringLifecycle.hooksOf .preInitialize) [] hooks' ["open", "check"] ∧
      hooks'.map LifecycleHook.memory = [1, 1, 0] ∧
      EndsWith (falteringLifecycle.advance .initialization [])
        (.error (.hookFailed .preStart "check")) .created
        (Function.update falteringLifecycle.hooksOf .preInitialize hooks') ["open", "check"]) ∧
    (∃ drained closed, falteringStarted.state = LifecycleAction.stopping.source ∧
      EndWell (falteringStarted.hooksOf .preStop) [] drained ["drain"] ∧
      FailsFirst (.hookFailed .postStop "close") (falteringStarted.hooksOf .postStop) ["drain"]
        closed ["drain", "close"] ∧
      EndsWith (falteringStarted.advance .stopping []) (.error (.hookFailed .postStop "close"))
        .stopped
        (Function.update (Function.update falteringStarted.hooksOf .preStop drained)
          .postStop closed)
        ["drain", "close"]) ∧
    (falteringStarted.state ≠ .created ∧
      falteringStarted.runToStart [] =
        (.error (.invalidTransition .started "initialize"), falteringStarted, [])) := by
  have failed : FailsFirst (.hookFailed .preStart "check")
      (falteringLifecycle.hooksOf .preInitialize) [] _ ["open", "check"] :=
    ⟨[_], _, [_], [_], ["open"], _, rfl, .cons rfl (.nil _), rfl, rfl⟩
  have drained : EndWell (falteringStarted.hooksOf .preStop) [] _ ["drain"] :=
    .cons rfl (.nil _)
  have failedBehind : FailsFirst (.hookFailed .postStop "close")
      (falteringStarted.hooksOf .postStop) ["drain"] _ ["drain", "close"] :=
    ⟨[], _, [], [], _, _, rfl, .nil _, rfl, rfl⟩
  obtain ⟨-, refused, -, inTurn, -⟩ := advance_runToStart_outcome falteringLifecycle []
  obtain ⟨-, -, -, inTurnLate, refusedLate, -⟩ := advance_runToStart_outcome falteringStarted []
  have stopping := (inTurnLate .stopping rfl).2 _ _ drained
  exact ⟨⟨nofun, refused .starting nofun⟩,
    ⟨_, failed, rfl, (inTurn .initialization rfl).1 _ _ _ failed⟩,
    ⟨_, _, rfl, drained, failedBehind, (stopping.2 rfl _ _).1 _ failedBehind⟩,
    ⟨nofun, refusedLate nofun⟩⟩

end Lifecycle

end SourceModel
