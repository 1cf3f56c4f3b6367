import SourceModel.Dialect

namespace SourceModel

namespace Rendering

variable {α β : Type}

@[simp] theorem outcome_pure (a : α) : (pure a : Rendering α).outcome = .ok a := rfl

theorem outcome_bind (first : Rendering α) (next : α → Rendering β) :
    (first >>= next).outcome = first.outcome.bind fun a => (next a).outcome := by
  cases ended : first.outcome with
  | error e => rw [bind_error ended]; rfl
  | ok a => rw [bind_ok ended]; rfl

theorem outcome_bind_ok {first : Rendering α} {a : α} (ended : first.outcome = .ok a)
    (next : α → Rendering β) : (first >>= next).outcome = (next a).outcome := by
  rw [bind_ok ended]

theorem outcome_sequence_cons_ok {first : Rendering α} {a : α} (ended : first.outcome = .ok a)
    {rest : List (Rendering α)} {as : List α} (others : (sequence rest).outcome = .ok as) :
    (sequence (first :: rest)).outcome = .ok (a :: as) := by
  rw [sequence, outcome_bind_ok ended, outcome_bind_ok others]
  rfl

theorem outcome_sequence_ok {ι : Type} {render : ι → Rendering α} {result : ι → α}
    {items : List ι} (each : ∀ item ∈ items, (render item).outcome = .ok (result item)) :
    (sequence (items.map render)).outcome = .ok (items.map result) := by
  induction items with
  | nil => rfl
  | cons item rest ih =>
    have others := ih fun item mem => each item (List.mem_cons_of_mem _ mem)
    exact outcome_sequence_cons_ok (each item List.mem_cons_self) others

theorem outcome_joined_ok {items : List (Rendering Fragment)} {fragments : List Fragment}
    (ended : (sequence items).outcome = .ok fragments) (joiner : Joiner) :
    (joined joiner items).outcome = .ok (joiner.join fragments) := by
  rw [joined, outcome_bind_ok ended]
  rfl

end Rendering

namespace Registry

theorem outcome_dispatch_succ {r : Registry} {node : Node} {renderer : Renderer}
    (found : r.lookup node = .ok renderer) (formatting : Formatting) (depth : Nat)
    (scope : ImportScope) :
    (r.dispatch formatting (depth + 1) scope node).outcome =
      (renderer.render ⟨formatting, scope, r.dispatch formatting depth⟩ node).outcome := by
  simp only [dispatch, found]
  exact Rendering.outcome_bind_ok rfl _

end Registry

end SourceModel
