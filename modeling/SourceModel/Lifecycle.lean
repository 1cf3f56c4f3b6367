import SourceModel.Collection.OrderedMap
import SourceModel.Text.Joined

namespace SourceModel

inductive LifecycleState
  | created
  | initialized
  | loaded
  | resolved
  | started
  | stopped
  deriving DecidableEq, Repr, Inhabited

namespace LifecycleState

def name : LifecycleState → String
  | created => "created"
  | initialized => "initialized"
  | loaded => "loaded"
  | resolved => "resolved"
  | started => "started"
  | stopped => "stopped"

def tag : LifecycleState → String
  | created => "Created"
  | initialized => "Initialized"
  | loaded => "Loaded"
  | resolved => "Resolved"
  | started => "Started"
  | stopped => "Stopped"

end LifecycleState

inductive LifecyclePhase
  | preInitialize
  | preLoad
  | preResolve
  | preStart
  | preStop
  | postStop
  deriving DecidableEq, Repr, Inhabited

namespace LifecyclePhase

def all : List LifecyclePhase := [preInitialize, preLoad, preResolve, preStart, preStop, postStop]

def name : LifecyclePhase → String
  | preInitialize => "pre-initialize"
  | preLoad => "pre-load"
  | preResolve => "pre-resolve"
  | preStart => "pre-start"
  | preStop => "pre-stop"
  | postStop => "post-stop"

def tag : LifecyclePhase → String
  | preInitialize => "PreInitialize"
  | preLoad => "PreLoad"
  | preResolve => "PreResolve"
  | preStart => "PreStart"
  | preStop => "PreStop"
  | postStop => "PostStop"

end LifecyclePhase

inductive LifecycleAction
  | initialization
  | loading
  | resolution
  | starting
  | stopping
  deriving DecidableEq, Repr, Inhabited

namespace LifecycleAction

def verb : LifecycleAction → String
  | initialization => "initialize"
  | loading => "load"
  | resolution => "resolve"
  | starting => "start"
  | stopping => "stop"

def source : LifecycleAction → LifecycleState
  | initialization => .created
  | loading => .initialized
  | resolution => .loaded
  | starting => .resolved
  | stopping => .started

def target : LifecycleAction → LifecycleState
  | initialization => .initialized
  | loading => .loaded
  | resolution => .resolved
  | starting => .started
  | stopping => .stopped

def phase : LifecycleAction → LifecyclePhase
  | initialization => .preInitialize
  | loading => .preLoad
  | resolution => .preResolve
  | starting => .preStart
  | stopping => .preStop

def startUp : List LifecycleAction := [initialization, loading, resolution, starting]

end LifecycleAction

inductive LifecycleError
  | invalidTransition (state : LifecycleState) (action : String)
  | hookFailed (phase : LifecyclePhase) (message : String)
  deriving DecidableEq, Repr

def LifecycleError.message : LifecycleError → String
  | invalidTransition state action => "cannot " ++ action ++ " while " ++ state.name
  | hookFailed phase message => phase.name ++ " hook failed: " ++ message

/-- A hook over contexts `γ` with a memory in `μ`: what it remembers, and what it does to memory and
context, ending well or not. -/
structure LifecycleHook (μ γ : Type) where
  memory : μ
  run : μ → γ → Except LifecycleError Unit × μ × γ

def LifecycleHook.call {μ γ : Type} (hook : LifecycleHook μ γ) (context : γ) :
    Except LifecycleError Unit × LifecycleHook μ γ × γ :=
  match hook.run hook.memory context with
  | (outcome, memory, context') => (outcome, { hook with memory }, context')

def callHooks {μ γ : Type} : List (LifecycleHook μ γ) → γ →
    Except LifecycleError Unit × List (LifecycleHook μ γ) × γ
  | [], context => (.ok (), [], context)
  | hook :: rest, context =>
    match hook.call context with
    | (.error e, hook', context') => (.error e, hook' :: rest, context')
    | (.ok (), hook', context') =>
      match callHooks rest context' with
      | (outcome, rest', context'') => (outcome, hook' :: rest', context'')

structure Lifecycle (μ γ : Type) where
  state : LifecycleState := .created
  hooks : OrderedMap LifecyclePhase (List (LifecycleHook μ γ)) := ∅

namespace Lifecycle

variable {μ γ : Type}

def new : Lifecycle μ γ := {}

def hooksOf (l : Lifecycle μ γ) (phase : LifecyclePhase) : List (LifecycleHook μ γ) :=
  (l.hooks.get? phase).getD []

def addHook (l : Lifecycle μ γ) (phase : LifecyclePhase) (hook : LifecycleHook μ γ) :
    Lifecycle μ γ :=
  { l with hooks := l.hooks.insert phase (l.hooksOf phase ++ [hook]) }

def runPhase (l : Lifecycle μ γ) (phase : LifecyclePhase) (context : γ) :
    Except LifecycleError Unit × Lifecycle μ γ × γ :=
  match l.hooks.get? phase with
  | none => (.ok (), l, context)
  | some hooks =>
    match callHooks hooks context with
    | (outcome, hooks', context') =>
      (outcome, { l with hooks := l.hooks.insert phase hooks' }, context')

def transition (l : Lifecycle μ γ) (action : LifecycleAction) (context : γ) :
    Except LifecycleError Unit × Lifecycle μ γ × γ :=
  if l.state = action.source then
    match l.runPhase action.phase context with
    | (.error e, l', context') => (.error e, l', context')
    | (.ok (), l', context') => (.ok (), { l' with state := action.target }, context')
  else (.error (.invalidTransition l.state action.verb), l, context)

/-- Performs an action; behind the change of state, stopping runs the hooks of its second phase. -/
def advance (l : Lifecycle μ γ) (action : LifecycleAction) (context : γ) :
    Except LifecycleError Unit × Lifecycle μ γ × γ :=
  match l.transition action context with
  | (.error e, l', context') => (.error e, l', context')
  | (.ok (), l', context') =>
    if action = .stopping then l'.runPhase .postStop context' else (.ok (), l', context')

def advanceAll (l : Lifecycle μ γ) (actions : List LifecycleAction) (context : γ) :
    Except LifecycleError Unit × Lifecycle μ γ × γ :=
  match actions with
  | [] => (.ok (), l, context)
  | action :: rest =>
    match l.advance action context with
    | (.error e, l', context') => (.error e, l', context')
    | (.ok (), l', context') => l'.advanceAll rest context'

def runToStart (l : Lifecycle μ γ) (context : γ) :
    Except LifecycleError Unit × Lifecycle μ γ × γ :=
  l.advanceAll LifecycleAction.startUp context

def description (l : Lifecycle μ γ) : String :=
  "Lifecycle \x7b state: " ++ l.state.tag ++ ", hooks: \x7b" ++
    Text.joinWith ", "
      (l.hooks.entries.map fun entry => entry.1.tag ++ ": " ++ toString entry.2.length) ++
    "\x7d \x7d"

theorem advance_of_state_ne {l : Lifecycle μ γ} {action : LifecycleAction} (context : γ)
    (h : l.state ≠ action.source) :
    l.advance action context = (.error (.invalidTransition l.state action.verb), l, context) := by
  simp [advance, transition, h]

theorem state_runPhase (l : Lifecycle μ γ) (phase : LifecyclePhase) (context : γ) :
    (l.runPhase phase context).2.1.state = l.state := by
  unfold runPhase
  split <;> rfl

theorem state_advance_of_ne_stop {l : Lifecycle μ γ} {action : LifecycleAction} (context : γ)
    (h : action ≠ .stopping) :
    (l.advance action context).2.1.state =
      match (l.advance action context).1 with
      | .ok () => action.target
      | .error _ => l.state := by
  by_cases hs : l.state = action.source
  · have same := state_runPhase l action.phase context
    simp only [advance, transition, hs, if_true, h, if_false]
    cases hr : l.runPhase action.phase context with
    | mk outcome rest =>
      rw [hr] at same
      cases outcome with
      | error e => simpa [hs] using same
      | ok u => rfl
  · rw [advance_of_state_ne context hs]

end Lifecycle

end SourceModel
