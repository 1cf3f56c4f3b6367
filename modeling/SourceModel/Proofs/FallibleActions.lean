import Mathlib.Data.List.Forall2

namespace SourceModel

theorem bind_eq_ok_iff {ε α β : Type} {first : Except ε α} {next : α → Except ε β} {b : β} :
    first >>= next = .ok b ↔ ∃ a, first = .ok a ∧ next a = .ok b := by
  cases first <;> simp [bind, Except.bind]

theorem forall₂_of_mapM_eq_ok {ε α β : Type} {step : α → Except ε β} {as : List α} {bs : List β}
    (ended : as.mapM step = .ok bs) : List.Forall₂ (fun a b => step a = .ok b) as bs := by
  induction as generalizing bs with
  | nil =>
    obtain rfl := Except.ok.inj ended
    exact .nil
  | cons a rest ih =>
    rw [List.mapM_cons] at ended
    obtain ⟨b, first, ended⟩ := bind_eq_ok_iff.mp ended
    obtain ⟨others, rest, ended⟩ := bind_eq_ok_iff.mp ended
    obtain rfl := Except.ok.inj ended
    exact .cons first (ih rest)

variable {ε σ α β : Type} {action : ExceptT ε (StateM σ) α} {s s' : σ}

theorem run_bind_ok {a : α} (ended : action.run.run s = (.ok a, s'))
    (next : α → ExceptT ε (StateM σ) β) : (action >>= next).run.run s = (next a).run.run s' := by
  rw [ExceptT.run_bind, StateT.run_bind, ended]
  rfl

theorem run_bind_error {e : ε} (ended : action.run.run s = (.error e, s'))
    (next : α → ExceptT ε (StateM σ) β) : (action >>= next).run.run s = (.error e, s') := by
  rw [ExceptT.run_bind, StateT.run_bind, ended]
  rfl

theorem run_bind_pure (action : ExceptT ε (StateM σ) α) (f : α → β) (s : σ) :
    (action >>= fun a => pure (f a)).run.run s =
      ((action.run.run s).1.map f, (action.run.run s).2) := by
  rcases ended : action.run.run s with ⟨outcome, s'⟩
  cases outcome with
  | error e => exact run_bind_error ended _
  | ok a => exact run_bind_ok ended _

/-- The action may read the state but never changes it. -/
def OnlyReads (action : ExceptT ε (StateM σ) α) : Prop := ∀ s, (action.run.run s).2 = s

namespace OnlyReads

theorem run_eq (reads : OnlyReads action) (s : σ) :
    action.run.run s = ((action.run.run s).1, s) :=
  Prod.ext rfl (reads s)

theorem ofResult (result : Except ε α) :
    OnlyReads (ExceptT.mk (pure result) : ExceptT ε (StateM σ) α) := fun _ => rfl

theorem bind (reads : OnlyReads action) {next : α → ExceptT ε (StateM σ) β}
    (others : ∀ a, OnlyReads (next a)) : OnlyReads (action >>= next) := by
  intro s
  have ended := reads.run_eq s
  cases result : (action.run.run s).1 with
  | error e =>
    rw [result] at ended
    rw [run_bind_error ended]
  | ok a =>
    rw [result] at ended
    rw [run_bind_ok ended]
    exact others a s

end OnlyReads

end SourceModel
