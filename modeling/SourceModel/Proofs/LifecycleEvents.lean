import SourceModel.Proofs.HookFailures

/-!
# Events of lifecycles

What a client can see of a lifecycle while it is at work: the passes through the hooks of a phase,
each with the lifecycle and the context with which it begins, and the changes of state. Recording
them changes nothing (`Lifecycle.result_recordAdvance`), and nothing happens besides: the events,
done one after the other, lead to what the calls leave behind (`Lifecycle.leads_recordAdvance`).
-/

namespace SourceModel

variable {μ γ : Type}

structure Pass (μ γ : Type) where
  lifecycle : Lifecycle μ γ
  phase : LifecyclePhase
  context : γ

namespace Pass

def Completed (pass : Pass μ γ) : Prop :=
  ∃ hooks' context', EndWell (pass.lifecycle.hooksOf pass.phase) pass.context hooks' context'

instance (pass : Pass μ γ) : Decidable pass.Completed :=
  match ended : (pass.lifecycle.runPhase pass.phase pass.context).1 with
  | .ok () => .isTrue ((pass.lifecycle.runPhase_eq_ok_iff pass.phase pass.context).mp ended)
  | .error _ => .isFalse fun completed => by
    rw [(pass.lifecycle.runPhase_eq_ok_iff pass.phase pass.context).mpr completed] at ended
    cases ended

end Pass

inductive LifecycleEvent (μ γ : Type)
  | pass (run : Pass μ γ)
  | move (state : LifecycleState)

namespace LifecycleEvent

def moveOf? : LifecycleEvent μ γ → Option LifecycleState
  | pass _ => none
  | move state => some state

def completedOf? : LifecycleEvent μ γ → Option LifecyclePhase
  | pass run => if run.phase ≠ .postStop ∧ run.Completed then some run.phase else none
  | move _ => none

def isPostStop : LifecycleEvent μ γ → Bool
  | pass run => run.phase = .postStop
  | move _ => false

end LifecycleEvent

def moves (events : List (LifecycleEvent μ γ)) : List LifecycleState :=
  events.filterMap LifecycleEvent.moveOf?

def completedPhases (events : List (LifecycleEvent μ γ)) : List LifecyclePhase :=
  events.filterMap LifecycleEvent.completedOf?

def postStopPasses (events : List (LifecycleEvent μ γ)) : Nat :=
  events.countP LifecycleEvent.isPostStop

section
variable (events events' : List (LifecycleEvent μ γ)) (run : Pass μ γ) (state : LifecycleState)

@[simp] theorem moves_append : moves (events ++ events') = moves events ++ moves events' :=
  List.filterMap_append

@[simp] theorem moves_nil : moves ([] : List (LifecycleEvent μ γ)) = [] := rfl

@[simp] theorem moves_pass : moves (.pass run :: events) = moves events := rfl

@[simp] theorem moves_move : moves (.move state :: events) = state :: moves events := rfl

@[simp] theorem completedPhases_append :
    completedPhases (events ++ events') = completedPhases events ++ completedPhases events' :=
  List.filterMap_append

@[simp] theorem completedPhases_nil :
    completedPhases ([] : List (LifecycleEvent μ γ)) = [] := rfl

@[simp] theorem completedPhases_pass :
    completedPhases (.pass run :: events) =
      if run.phase ≠ .postStop ∧ run.Completed then run.phase :: completedPhases events
      else completedPhases events := by
  by_cases counts : run.phase ≠ .postStop ∧ run.Completed <;>
    simp [completedPhases, LifecycleEvent.completedOf?, counts]

@[simp] theorem completedPhases_move :
    completedPhases (.move state :: events) = completedPhases events := rfl

@[simp] theorem postStopPasses_append :
    postStopPasses (events ++ events') = postStopPasses events + postStopPasses events' :=
  List.countP_append

@[simp] theorem postStopPasses_nil :
    postStopPasses ([] : List (LifecycleEvent μ γ)) = 0 := rfl

@[simp] theorem postStopPasses_pass :
    postStopPasses (.pass run :: events) =
      postStopPasses events + if run.phase = .postStop then 1 else 0 := by
  simp [postStopPasses, LifecycleEvent.isPostStop, List.countP_cons]

@[simp] theorem postStopPasses_move :
    postStopPasses (.move state :: events) = postStopPasses events := by
  simp [postStopPasses, LifecycleEvent.isPostStop]

end

structure Recorded (μ γ : Type) where
  events : List (LifecycleEvent μ γ)
  outcome : Except LifecycleError Unit
  lifecycle : Lifecycle μ γ
  context : γ

namespace Recorded

def result (first : Recorded μ γ) : Except LifecycleError Unit × Lifecycle μ γ × γ :=
  (first.outcome, first.lifecycle, first.context)

def andThen (first : Recorded μ γ) (next : Lifecycle μ γ → γ → Recorded μ γ) : Recorded μ γ :=
  match first.outcome with
  | .error _ => first
  | .ok () =>
    let second := next first.lifecycle first.context
    { second with events := first.events ++ second.events }

theorem andThen_of_error {first : Recorded μ γ} {e : LifecycleError}
    (failed : first.outcome = .error e) (next : Lifecycle μ γ → γ → Recorded μ γ) :
    first.andThen next = first := by
  simp only [andThen, failed]

theorem andThen_of_ok {first : Recorded μ γ} (ended : first.outcome = .ok ())
    (next : Lifecycle μ γ → γ → Recorded μ γ) :
    first.andThen next =
      { next first.lifecycle first.context with
        events := first.events ++ (next first.lifecycle first.context).events } := by
  simp only [andThen, ended]

theorem result_andThen (first : Recorded μ γ) (next : Lifecycle μ γ → γ → Recorded μ γ) :
    (first.andThen next).result =
      match first.result with
      | (.error e, l, context) => (.error e, l, context)
      | (.ok (), l, context) => (next l context).result := by
  cases ended : first.outcome with
  | error e => simp only [andThen_of_error ended, result, ended]
  | ok _ => simp only [andThen_of_ok ended, result, ended]

end Recorded

namespace Lifecycle

def recordPhase (l : Lifecycle μ γ) (phase : LifecyclePhase) (context : γ) : Recorded μ γ :=
  match l.runPhase phase context with
  | (outcome, l', context') => ⟨[.pass ⟨l, phase, context⟩], outcome, l', context'⟩

def recordTransition (l : Lifecycle μ γ) (action : LifecycleAction) (context : γ) :
    Recorded μ γ :=
  if l.state = action.source then
    (l.recordPhase action.phase context).andThen fun l' context' =>
      ⟨[.move action.target], .ok (), { l' with state := action.target }, context'⟩
  else ⟨[], .error (.invalidTransition l.state action.verb), l, context⟩

def recordAdvance (l : Lifecycle μ γ) (action : LifecycleAction) (context : γ) : Recorded μ γ :=
  (l.recordTransition action context).andThen fun l' context' =>
    if action = .stopping then l'.recordPhase .postStop context'
    else ⟨[], .ok (), l', context'⟩

def recordAdvanceAll (l : Lifecycle μ γ) (actions : List LifecycleAction) (context : γ) :
    Recorded μ γ :=
  match actions with
  | [] => ⟨[], .ok (), l, context⟩
  | action :: rest =>
    (l.recordAdvance action context).andThen fun l' context' => l'.recordAdvanceAll rest context'

theorem result_recordTransition (l : Lifecycle μ γ) (action : LifecycleAction) (context : γ) :
    (l.recordTransition action context).result = l.transition action context := by
  unfold recordTransition transition
  split
  · rw [Recorded.result_andThen]
    rfl
  · rfl

theorem result_recordAdvance (l : Lifecycle μ γ) (action : LifecycleAction) (context : γ) :
    (l.recordAdvance action context).result = l.advance action context := by
  rw [recordAdvance, Recorded.result_andThen, result_recordTransition, advance]
  rcases l.transition action context with ⟨outcome, l', context'⟩
  cases outcome with
  | error e => rfl
  | ok _ => by_cases stops : action = .stopping <;> simp only [stops, if_true, if_false] <;> rfl

theorem result_recordAdvanceAll (l : Lifecycle μ γ) (actions : List LifecycleAction)
    (context : γ) : (l.recordAdvanceAll actions context).result = l.advanceAll actions context := by
  induction actions generalizing l context with
  | nil => rfl
  | cons action rest ih =>
    rw [recordAdvanceAll, Recorded.result_andThen, result_recordAdvance, advanceAll]
    rcases l.advance action context with ⟨outcome, l', context'⟩
    cases outcome with
    | error e => rfl
    | ok _ => exact ih l' context'

end Lifecycle

/-- The events, done one after the other, lead from one lifecycle and context to the others. -/
inductive Leads : Lifecycle μ γ → γ → List (LifecycleEvent μ γ) → Lifecycle μ γ → γ → Prop
  | nil (l : Lifecycle μ γ) (context : γ) : Leads l context [] l context
  | pass {l l' l'' : Lifecycle μ γ} {context context' context'' : γ} {phase : LifecyclePhase}
      {outcome : Except LifecycleError Unit} {rest : List (LifecycleEvent μ γ)}
      (ran : l.runPhase phase context = (outcome, l', context'))
      (others : Leads l' context' rest l'' context'') :
      Leads l context (.pass ⟨l, phase, context⟩ :: rest) l'' context''
  | move {l l' : Lifecycle μ γ} {context context' : γ} (state : LifecycleState)
      {rest : List (LifecycleEvent μ γ)}
      (others : Leads { l with state } context rest l' context') :
      Leads l context (.move state :: rest) l' context'

theorem Leads.append {l l' l'' : Lifecycle μ γ} {context context' context'' : γ}
    {events events' : List (LifecycleEvent μ γ)} (first : Leads l context events l' context')
    (others : Leads l' context' events' l'' context'') :
    Leads l context (events ++ events') l'' context'' := by
  induction first with
  | nil => exact others
  | pass ran _ ih => exact .pass ran (ih others)
  | move state _ ih => exact .move state (ih others)

def Recorded.LeadsFrom (l : Lifecycle μ γ) (context : γ) (part : Recorded μ γ) : Prop :=
  Leads l context part.events part.lifecycle part.context

theorem Recorded.LeadsFrom.andThen {l : Lifecycle μ γ} {context : γ} {first : Recorded μ γ}
    {next : Lifecycle μ γ → γ → Recorded μ γ} (leads : first.LeadsFrom l context)
    (others : ∀ l' context', (next l' context').LeadsFrom l' context') :
    (first.andThen next).LeadsFrom l context := by
  cases ended : first.outcome with
  | error e =>
    rw [andThen_of_error ended]
    exact leads
  | ok _ =>
    rw [andThen_of_ok ended]
    exact leads.append (others first.lifecycle first.context)

namespace Lifecycle

theorem leads_recordPhase (l : Lifecycle μ γ) (phase : LifecyclePhase) (context : γ) :
    (l.recordPhase phase context).LeadsFrom l context :=
  .pass rfl (.nil _ _)

theorem leads_recordTransition (l : Lifecycle μ γ) (action : LifecycleAction) (context : γ) :
    (l.recordTransition action context).LeadsFrom l context := by
  unfold recordTransition
  split
  · exact (l.leads_recordPhase action.phase context).andThen fun l' context' =>
      .move action.target (.nil _ context')
  · exact .nil l context

theorem leads_recordAdvance (l : Lifecycle μ γ) (action : LifecycleAction) (context : γ) :
    (l.recordAdvance action context).LeadsFrom l context := by
  refine (l.leads_recordTransition action context).andThen fun l' context' => ?_
  split
  · exact l'.leads_recordPhase .postStop context'
  · exact .nil l' context'

theorem leads_recordAdvanceAll (l : Lifecycle μ γ) (actions : List LifecycleAction)
    (context : γ) : (l.recordAdvanceAll actions context).LeadsFrom l context := by
  induction actions generalizing l context with
  | nil => exact .nil l context
  | cons action rest ih => exact (l.leads_recordAdvance action context).andThen ih

end Lifecycle

inductive LifecycleCall (μ γ : Type)
  | on (phase : LifecyclePhase) (hook : LifecycleHook μ γ)
  | advance (action : LifecycleAction) (context : γ)
  | runToStart (context : γ)

namespace LifecycleCall

def perform (l : Lifecycle μ γ) : LifecycleCall μ γ → Lifecycle μ γ
  | on phase hook => l.addHook phase hook
  | advance action context => (l.advance action context).2.1
  | runToStart context => (l.runToStart context).2.1

def events (l : Lifecycle μ γ) : LifecycleCall μ γ → List (LifecycleEvent μ γ)
  | on _ _ => []
  | advance action context => (l.recordAdvance action context).events
  | runToStart context => (l.recordAdvanceAll LifecycleAction.startUp context).events

end LifecycleCall

namespace Lifecycle

def afterCalls (calls : List (LifecycleCall μ γ)) : Lifecycle μ γ :=
  calls.foldl LifecycleCall.perform new

def eventsFrom (l : Lifecycle μ γ) : List (LifecycleCall μ γ) → List (LifecycleEvent μ γ)
  | [] => []
  | call :: rest => call.events l ++ (call.perform l).eventsFrom rest

def history (calls : List (LifecycleCall μ γ)) : List (LifecycleEvent μ γ) :=
  new.eventsFrom calls

theorem eventsFrom_append (l : Lifecycle μ γ) (calls calls' : List (LifecycleCall μ γ)) :
    l.eventsFrom (calls ++ calls') =
      l.eventsFrom calls ++ (calls.foldl LifecycleCall.perform l).eventsFrom calls' := by
  induction calls generalizing l with
  | nil => rfl
  | cons call rest ih =>
    rw [List.cons_append, eventsFrom, ih, eventsFrom, List.append_assoc]
    rfl

end Lifecycle

end SourceModel
