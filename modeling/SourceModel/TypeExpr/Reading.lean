namespace SourceModel.TypeExpr

inductive Expectation
  | typeName
  | closingBracket
  | boundType
  | listEnd (opening : List Char)
  deriving DecidableEq, Repr

namespace Expectation

def what : Expectation → String
  | typeName => "a type name"
  | closingBracket => "`]`"
  | boundType => "a bound type"
  | listEnd _ => "`,` or `>`"

def help? : Expectation → Option String
  | typeName => none
  | closingBracket => some "array dimensions are written as `[]`"
  | boundType => some "bounds are written as `? extends Number` or `T extends A & B`"
  | listEnd _ => some "close the generic argument list with `>`"

end Expectation

/-- Why a piece cannot be finished: what is missing, the characters from there on, and whether that
happened among bounds. -/
structure Failure where
  expected : Expectation
  remaining : List Char
  amongBounds : Bool := false
  deriving DecidableEq, Repr

def Failure.help? (failure : Failure) : Option String :=
  match failure.expected.help? with
  | some help => some help
  | none => if failure.amongBounds then Expectation.boundType.help? else none

inductive Reading (α : Type)
  | done (value : α) (remaining : List Char)
  | missing
  | failed (failure : Failure)
  deriving Repr

namespace Reading

variable {α β : Type}

def map (f : α → β) : Reading α → Reading β
  | done value remaining => done (f value) remaining
  | missing => missing
  | failed failure => failed failure

def amongBounds : Reading α → Reading α
  | failed failure => failed { failure with amongBounds := true }
  | other => other

def orFail (reading : Reading α) (failure : Failure) : Reading α :=
  match reading with
  | missing => failed failure
  | other => other

def orDefault (reading : Reading α) (value : α) (remaining : List Char) : Reading α :=
  match reading with
  | missing => done value remaining
  | other => other

def andThen (reading : Reading α) (next : α → List Char → Reading β) : Reading β :=
  match reading with
  | done value remaining => next value remaining
  | missing => missing
  | failed failure => failed failure

theorem map_eq_done {f : α → β} {reading : Reading α} {b : β} {rest : List Char} :
    reading.map f = .done b rest ↔ ∃ a, reading = .done a rest ∧ f a = b := by
  constructor
  · intro h
    cases reading with
    | done a behind =>
      obtain ⟨rfl, rfl⟩ := by simpa [map] using h
      exact ⟨a, rfl, rfl⟩
    | missing => cases h
    | failed failure => cases h
  · rintro ⟨a, rfl, rfl⟩
    rfl

theorem andThen_eq_done {reading : Reading α} {next : α → List Char → Reading β} {b : β}
    {rest : List Char} :
    reading.andThen next = .done b rest ↔
      ∃ a behind, reading = .done a behind ∧ next a behind = .done b rest := by
  constructor
  · intro h
    cases reading with
    | done a behind => exact ⟨a, behind, rfl, h⟩
    | missing => cases h
    | failed failure => cases h
  · rintro ⟨a, behind, rfl, h⟩
    exact h

theorem amongBounds_eq_done {reading : Reading α} {a : α} {rest : List Char} :
    reading.amongBounds = .done a rest ↔ reading = .done a rest := by
  cases reading <;> simp [amongBounds]

theorem orFail_eq_done {reading : Reading α} {failure : Failure} {a : α} {rest : List Char} :
    reading.orFail failure = .done a rest ↔ reading = .done a rest := by
  cases reading <;> simp [orFail]

theorem orDefault_eq_done {reading : Reading α} {value a : α} {remaining rest : List Char} :
    reading.orDefault value remaining = .done a rest ↔
      reading = .done a rest ∨ reading = .missing ∧ value = a ∧ remaining = rest := by
  cases reading <;> simp [orDefault]

theorem map_eq_failed {f : α → β} {reading : Reading α} {failure : Failure} :
    reading.map f = .failed failure ↔ reading = .failed failure := by
  cases reading <;> simp [map]

theorem andThen_eq_failed {reading : Reading α} {next : α → List Char → Reading β}
    {failure : Failure} :
    reading.andThen next = .failed failure ↔
      reading = .failed failure ∨
        ∃ a behind, reading = .done a behind ∧ next a behind = .failed failure := by
  cases reading <;> simp [andThen, and_assoc]

theorem amongBounds_eq_failed {reading : Reading α} {failure : Failure} :
    reading.amongBounds = .failed failure ↔
      ∃ inner, reading = .failed inner ∧ failure = { inner with amongBounds := true } := by
  cases reading <;> simp [amongBounds, eq_comm]

theorem orFail_eq_failed {reading : Reading α} {failure other : Failure} :
    reading.orFail other = .failed failure ↔
      reading = .failed failure ∨ reading = .missing ∧ other = failure := by
  cases reading <;> simp [orFail]

theorem orDefault_eq_failed {reading : Reading α} {value : α} {remaining : List Char}
    {failure : Failure} :
    reading.orDefault value remaining = .failed failure ↔ reading = .failed failure := by
  cases reading <;> simp [orDefault]

theorem map_eq_missing {f : α → β} {reading : Reading α} :
    reading.map f = .missing ↔ reading = .missing := by
  cases reading <;> simp [map]

theorem andThen_eq_missing {reading : Reading α} {next : α → List Char → Reading β} :
    reading.andThen next = .missing ↔
      reading = .missing ∨ ∃ a behind, reading = .done a behind ∧ next a behind = .missing := by
  cases reading <;> simp [andThen, and_assoc]

theorem amongBounds_eq_missing {reading : Reading α} :
    reading.amongBounds = .missing ↔ reading = .missing := by
  cases reading <;> simp [amongBounds]

theorem orFail_ne_missing {reading : Reading α} {failure : Failure} :
    reading.orFail failure ≠ .missing := by
  cases reading <;> simp [orFail]

theorem orDefault_ne_missing {reading : Reading α} {value : α} {remaining : List Char} :
    reading.orDefault value remaining ≠ .missing := by
  cases reading <;> simp [orDefault]

end Reading

end SourceModel.TypeExpr
