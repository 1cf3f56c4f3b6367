import SourceModel.Proofs.LifecycleEvents

namespace SourceModel

variable {μ γ : Type}

def LifecycleState.path : LifecycleState → List LifecycleAction
  | created => []
  | initialized => [.initialization]
  | loaded => [.initialization, .loading]
  | resolved => [.initialization, .loading, .resolution]
  | started => [.initialization, .loading, .resolution, .starting]
  | stopped => [.initialization, .loading, .resolution, .starting, .stopping]

def LifecyclePhase.home : LifecyclePhase → LifecycleState
  | preInitialize => .created
  | preLoad => .initialized
  | preResolve => .loaded
  | preStart => .resolved
  | preStop => .started
  | postStop => .stopped

namespace LifecycleAction

theorem path_target (action : LifecycleAction) :
    action.target.path = action.source.path ++ [action] := by
  cases action <;> rfl

theorem home_phase (action : LifecycleAction) : action.phase.home = action.source := by
  cases action <;> rfl

theorem phase_ne_postStop (action : LifecycleAction) : action.phase ≠ .postStop := by
  cases action <;> nofun

end LifecycleAction

theorem LifecycleState.path_of_targets {state later : LifecycleState}
    (targets : state.path.map LifecycleAction.target <+: later.path.map LifecycleAction.target) :
    state.path <+: later.path := by
  cases state <;> cases later <;> revert targets <;> decide

/-- The pass runs in the state of its phase, behind the moves and the complete passes of the path
to that state. -/
def InTurn (before : List (LifecycleEvent μ γ)) (run : Pass μ γ) : Prop :=
  run.lifecycle.state = run.phase.home ∧
    moves before = run.phase.home.path.map LifecycleAction.target ∧
    completedPhases before = run.phase.home.path.map LifecycleAction.phase

def AllInTurn (events : List (LifecycleEvent μ γ)) : Prop :=
  ∀ before run, before ++ [.pass run] <+: events → InTurn before run

theorem AllInTurn.concat_pass {events : List (LifecycleEvent μ γ)} {run : Pass μ γ}
    (all : AllInTurn events) (inTurn : InTurn events run) :
    AllInTurn (events ++ [.pass run]) := by
  intro before run' upTo
  rcases List.prefix_concat_iff.mp upTo with whole | earlier
  · obtain ⟨rfl, same⟩ := List.append_inj' whole rfl
    cases same
    exact inTurn
  · exact all before run' earlier

theorem AllInTurn.concat_move {events : List (LifecycleEvent μ γ)} (all : AllInTurn events)
    (state : LifecycleState) : AllInTurn (events ++ [.move state]) := by
  intro before run upTo
  rcases List.prefix_concat_iff.mp upTo with whole | earlier
  · cases (List.append_inj' whole rfl).2
  · exact all before run earlier

/-- The events are those of a lifecycle that has walked the path to the state. -/
structure Consistent (events : List (LifecycleEvent μ γ)) (state : LifecycleState) : Prop where
  moves : moves events = state.path.map LifecycleAction.target
  completed : completedPhases events = state.path.map LifecycleAction.phase
  inTurn : AllInTurn events
  behind : postStopPasses events ≤ if state = .stopped then 1 else 0

namespace Consistent

variable {l : Lifecycle μ γ} {events : List (LifecycleEvent μ γ)}

theorem inTurn_pass (consistent : Consistent events l.state) {phase : LifecyclePhase}
    (home : phase.home = l.state) (context : γ) : InTurn events ⟨l, phase, context⟩ := by
  refine ⟨home.symm, ?_, ?_⟩
  · rw [home, consistent.moves]
  · rw [home, consistent.completed]

theorem aborted (consistent : Consistent events l.state) {action : LifecycleAction}
    (inTurn : l.state = action.source) {context : γ}
    (failed : ¬ (⟨l, action.phase, context⟩ : Pass μ γ).Completed) :
    Consistent (events ++ [.pass ⟨l, action.phase, context⟩]) l.state where
  moves := by simp [consistent.moves]
  completed := by simp [consistent.completed, failed]
  inTurn := consistent.inTurn.concat_pass
    (consistent.inTurn_pass (action.home_phase.trans inTurn.symm) context)
  behind := by simpa [action.phase_ne_postStop] using consistent.behind

theorem moved (consistent : Consistent events l.state) {action : LifecycleAction}
    (inTurn : l.state = action.source) {context : γ}
    (ended : (⟨l, action.phase, context⟩ : Pass μ γ).Completed) :
    Consistent (events ++ [.pass ⟨l, action.phase, context⟩, .move action.target])
      action.target where
  moves := by simp [consistent.moves, inTurn, action.path_target]
  completed := by
    simp [consistent.completed, inTurn, action.path_target, action.phase_ne_postStop, ended]
  inTurn := by
    have ahead := consistent.inTurn_pass (action.home_phase.trans inTurn.symm) context
    have both := (consistent.inTurn.concat_pass ahead).concat_move action.target
    rwa [List.append_assoc] at both
  behind := by
    have running : l.state ≠ .stopped := by
      rw [inTurn]
      cases action <;> nofun
    have before := consistent.behind
    rw [if_neg running] at before
    simp [action.phase_ne_postStop, Nat.le_zero.mp before]

theorem behindTheEnd (consistent : Consistent events l.state) (stopped : l.state = .stopped)
    (none : postStopPasses events = 0) (context : γ) :
    Consistent (events ++ [.pass ⟨l, .postStop, context⟩]) l.state where
  moves := by simp [consistent.moves]
  completed := by simp [consistent.completed]
  inTurn := consistent.inTurn.concat_pass
    (consistent.inTurn_pass (show LifecyclePhase.postStop.home = l.state from stopped.symm) context)
  behind := by simp [none, stopped]

end Consistent

namespace Recorded

def GoesOn (events : List (LifecycleEvent μ γ)) (part : Recorded μ γ) : Prop :=
  Consistent (events ++ part.events) part.lifecycle.state

theorem GoesOn.andThen {events : List (LifecycleEvent μ γ)} {first : Recorded μ γ}
    {next : Lifecycle μ γ → γ → Recorded μ γ} (goesOn : first.GoesOn events)
    (others : first.outcome = .ok () →
      (next first.lifecycle first.context).GoesOn (events ++ first.events)) :
    (first.andThen next).GoesOn events := by
  cases ended : first.outcome with
  | error e =>
    rw [andThen_of_error ended]
    exact goesOn
  | ok _ =>
    have behind := others ended
    rw [andThen_of_ok ended]
    simpa only [GoesOn, List.append_assoc] using behind

end Recorded

namespace Lifecycle

variable {l : Lifecycle μ γ} {events : List (LifecycleEvent μ γ)}

theorem goesOn_recordTransition (consistent : Consistent events l.state)
    (action : LifecycleAction) (context : γ) :
    (l.recordTransition action context).GoesOn events ∧
      postStopPasses (l.recordTransition action context).events = 0 := by
  unfold recordTransition
  split
  · rename_i inTurn
    have state : (l.recordPhase action.phase context).lifecycle.state = l.state :=
      l.state_runPhase action.phase context
    have complete := l.runPhase_eq_ok_iff action.phase context
    cases ended : (l.recordPhase action.phase context).outcome with
    | error e =>
      have failed : ¬ (⟨l, action.phase, context⟩ : Pass μ γ).Completed := by
        intro completed
        cases ended.symm.trans (complete.mpr completed)
      rw [Recorded.andThen_of_error ended]
      refine ⟨?_, by simp [recordPhase, action.phase_ne_postStop]⟩
      rw [Recorded.GoesOn, state]
      exact consistent.aborted inTurn failed
    | ok _ =>
      rw [Recorded.andThen_of_ok ended]
      exact ⟨consistent.moved inTurn (complete.mp ended),
        by simp [recordPhase, action.phase_ne_postStop]⟩
  · exact ⟨by simpa [Recorded.GoesOn] using consistent, rfl⟩

theorem states_of_recordTransition {action : LifecycleAction} {context : γ}
    (ended : (l.recordTransition action context).outcome = .ok ()) :
    l.state = action.source ∧
      (l.recordTransition action context).lifecycle.state = action.target := by
  unfold recordTransition at ended ⊢
  split at ended
  · rename_i inTurn
    refine ⟨inTurn, ?_⟩
    rw [if_pos inTurn]
    cases called : (l.recordPhase action.phase context).outcome with
    | error e =>
      rw [Recorded.andThen_of_error called, called] at ended
      cases ended
    | ok _ => rw [Recorded.andThen_of_ok called]
  · cases ended

theorem goesOn_recordAdvance (consistent : Consistent events l.state) (action : LifecycleAction)
    (context : γ) : (l.recordAdvance action context).GoesOn events := by
  obtain ⟨goesOn, none⟩ := goesOn_recordTransition consistent action context
  refine goesOn.andThen fun ended => ?_
  obtain ⟨before, after⟩ := states_of_recordTransition ended
  split
  · rename_i stops
    subst stops
    -- The state before was not the last one, so there has been no pass behind the end.
    have noneBefore : postStopPasses events = 0 := by
      have atMost := consistent.behind
      rw [before] at atMost
      exact Nat.le_zero.mp atMost
    have behind := goesOn.behindTheEnd after (by simp [noneBefore, none])
      (l.recordTransition .stopping context).context
    rw [Recorded.GoesOn]
    rwa [← state_runPhase _ .postStop] at behind
  · simpa [Recorded.GoesOn] using goesOn

theorem goesOn_recordAdvanceAll (consistent : Consistent events l.state)
    (actions : List LifecycleAction) (context : γ) :
    (l.recordAdvanceAll actions context).GoesOn events := by
  induction actions generalizing l events context with
  | nil => simpa [recordAdvanceAll, Recorded.GoesOn] using consistent
  | cons action rest ih =>
    have first := goesOn_recordAdvance consistent action context
    exact first.andThen fun _ => ih first _

end Lifecycle

theorem Consistent.perform {l : Lifecycle μ γ} {events : List (LifecycleEvent μ γ)}
    (consistent : Consistent events l.state) (call : LifecycleCall μ γ) :
    Consistent (events ++ call.events l) (call.perform l).state := by
  cases call with
  | on phase hook =>
    rw [LifecycleCall.events, List.append_nil]
    exact consistent
  | advance action context =>
    have goesOn := Lifecycle.goesOn_recordAdvance consistent action context
    have left := congrArg (fun result => result.2.1.state) (l.result_recordAdvance action context)
    exact left ▸ goesOn
  | runToStart context =>
    have goesOn :=
      Lifecycle.goesOn_recordAdvanceAll consistent LifecycleAction.startUp context
    have left := congrArg (fun result => result.2.1.state)
      (l.result_recordAdvanceAll LifecycleAction.startUp context)
    exact left ▸ goesOn

theorem Consistent.eventsFrom {l : Lifecycle μ γ} {events : List (LifecycleEvent μ γ)}
    (consistent : Consistent events l.state) (calls : List (LifecycleCall μ γ)) :
    Consistent (events ++ l.eventsFrom calls)
      (calls.foldl LifecycleCall.perform l).state := by
  induction calls generalizing l events with
  | nil => simpa [Lifecycle.eventsFrom] using consistent
  | cons call rest ih =>
    have others := ih (consistent.perform call)
    rwa [List.append_assoc] at others

theorem consistent_history (calls : List (LifecycleCall μ γ)) :
    Consistent (Lifecycle.history calls) (Lifecycle.afterCalls calls).state := by
  have start : Consistent ([] : List (LifecycleEvent μ γ)) .created :=
    ⟨rfl, rfl, fun before run upTo => by simp at upTo, Nat.le_refl 0⟩
  exact Consistent.eventsFrom (l := .new) start calls

/-- The state only moves forward, along the path. Up to a state, the changes of state and the
complete passes ahead of them are those of the path to it, each once and in order, and the same
holds ahead of every pass. Hooks are called in the state of their phase alone, and there is at most
one pass behind the end. The events are all that a call does, and it does the same unrecorded. -/
theorem history_ofCalls (calls : List (LifecycleCall μ γ)) :
    let l := Lifecycle.afterCalls calls
    let events := Lifecycle.history calls
    (∀ earlier later, calls = earlier ++ later →
      (Lifecycle.afterCalls earlier).state.path <+: l.state.path) ∧
    moves events = l.state.path.map LifecycleAction.target ∧
    completedPhases events = l.state.path.map LifecycleAction.phase ∧
    (∀ before run, before ++ [.pass run] <+: events →
      run.lifecycle.state = run.phase.home ∧
        moves before = run.lifecycle.state.path.map LifecycleAction.target ∧
        completedPhases before = run.lifecycle.state.path.map LifecycleAction.phase) ∧
    postStopPasses events ≤ 1 ∧
    ∀ (l : Lifecycle μ γ) context,
      (∀ action, (l.recordAdvance action context).result = l.advance action context ∧
        (l.recordAdvance action context).LeadsFrom l context) ∧
      (l.recordAdvanceAll LifecycleAction.startUp context).result = l.runToStart context ∧
        (l.recordAdvanceAll LifecycleAction.startUp context).LeadsFrom l context := by
  intro l events
  have consistent : Consistent events l.state := consistent_history calls
  refine ⟨?_, consistent.moves, consistent.completed, ?_, ?_, ?_⟩
  · rintro earlier later rfl
    -- The changes of state so far are a front of those in the end, and they tell the path.
    apply LifecycleState.path_of_targets
    rw [← (consistent_history earlier).moves, ← consistent.moves]
    refine ⟨moves ((Lifecycle.afterCalls earlier).eventsFrom later), ?_⟩
    rw [← moves_append]
    exact congrArg moves (Lifecycle.new.eventsFrom_append earlier later).symm
  · intro before run upTo
    obtain ⟨home, moved, completed⟩ := consistent.inTurn before run upTo
    rw [home]
    exact ⟨rfl, moved, completed⟩
  · refine Nat.le_trans consistent.behind ?_
    split
    · exact Nat.le_refl 1
    · exact Nat.zero_le 1
  · intro l context
    exact ⟨fun action => ⟨l.result_recordAdvance action context,
        l.leads_recordAdvance action context⟩,
      l.result_recordAdvanceAll LifecycleAction.startUp context,
      l.leads_recordAdvanceAll LifecycleAction.startUp context⟩

def retryingCalls : List (LifecycleCall Nat (List String)) :=
  [.advance .loading [], .on .preLoad (Lifecycle.faltering "read" .preLoad 1), .runToStart [],
   .runToStart [], .on .postStop (Lifecycle.faltering "close" .postStop 1), .advance .loading [],
   .advance .resolution [], .advance .starting [], .advance .stopping [], .advance .stopping [],
   .on .postStop (Lifecycle.faltering "sweep" .postStop 0)]

theorem history_ofCalls_retrying :
    (retryingCalls = retryingCalls.take 3 ++ retryingCalls.drop 3 ∧
      (Lifecycle.afterCalls (retryingCalls.take 3)).state.path <+:
        (Lifecycle.afterCalls retryingCalls).state.path) ∧
    (Lifecycle.afterCalls retryingCalls).state = .stopped ∧
    moves (Lifecycle.history retryingCalls) =
      [.initialized, .loaded, .resolved, .started, .stopped] ∧
    completedPhases (Lifecycle.history retryingCalls) =
      [.preInitialize, .preLoad, .preResolve, .preStart, .preStop] ∧
    (∃ before run, before ++ [.pass run] <+: Lifecycle.history retryingCalls ∧
      run.phase = .postStop ∧ run.lifecycle.state = .stopped ∧
      moves before = [.initialized, .loaded, .resolved, .started, .stopped] ∧
      completedPhases before = [.preInitialize, .preLoad, .preResolve, .preStart, .preStop]) ∧
    postStopPasses (Lifecycle.history retryingCalls) ≤ 1 := by
  obtain ⟨forward, moved, completed, inTurn, once, -⟩ := history_ofCalls retryingCalls
  have last : (Lifecycle.history retryingCalls).take 11 ++ [.pass ⟨_, .postStop, []⟩] <+:
      Lifecycle.history retryingCalls := ⟨[], rfl⟩
  exact ⟨⟨rfl, forward _ _ rfl⟩, rfl, moved, completed, ⟨_, _, last, rfl, inTurn _ _ last⟩, once⟩

end SourceModel
