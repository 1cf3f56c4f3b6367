import Mathlib.Data.List.Forall2
import SourceModel.Document.Assembly

/-!
# Readings in order

A computation reads some strings from the front if it ends in a value as soon as all of them can be
read, and otherwise in the failure of the first one that cannot (`Reads`). Steps that are taken one
after the other read their strings one after the other (`Reads.bind`), and so do the steps of a list
(`Reads.mapM`).
-/

namespace SourceModel.Document

open TypeExpr (parseType parseGeneric)

inductive Demand
  | type (expression : String)
  | generic (expression : String)
  | modifier (word : String)

def failureOf {α : Type} : Except Failure α → Option Failure
  | .ok _ => none
  | .error failure => some failure

namespace Demand

def Readable : Demand → Prop
  | type expression => ∃ t, parseType expression = .ok t
  | generic expression => ∃ g, parseGeneric expression = .ok g
  | modifier word => ∃ m : Modifier, m.keyword = word

def Refused : Demand → Failure → Prop
  | type expression, failure => ∃ e, parseType expression = .error e ∧ failure = .parse e expression
  | generic expression, failure =>
    ∃ e, parseGeneric expression = .error e ∧ failure = .parse e expression
  | modifier word, failure =>
    (∀ m : Modifier, m.keyword ≠ word) ∧ failure = .model ("unknown modifier `" ++ word ++ "`")

def failure? : Demand → Option Failure
  | type expression => failureOf (typeOf expression)
  | generic expression => failureOf (genericOf expression)
  | modifier word => failureOf (modifierOf word)

end Demand

section

variable {α ε ε' : Type}

theorem failureOf_eq_none_iff {step : Except Failure α} :
    failureOf step = none ↔ ∃ a, step = .ok a := by
  cases step <;> simp [failureOf]

theorem failureOf_eq_some_iff {step : Except Failure α} {failure : Failure} :
    failureOf step = some failure ↔ step = .error failure := by
  cases step <;> simp [failureOf]

theorem mapError_eq_ok_iff {step : Except ε α} {f : ε → ε'} {a : α} :
    step.mapError f = .ok a ↔ step = .ok a := by
  cases step <;> simp [Except.mapError]

theorem mapError_eq_error_iff {step : Except ε α} {f : ε → ε'} {e' : ε'} :
    step.mapError f = .error e' ↔ ∃ e, step = .error e ∧ e' = f e := by
  cases step <;> simp [Except.mapError, eq_comm]

end

theorem modifierOf_eq_ok_iff {word : String} {m : Modifier} :
    modifierOf word = .ok m ↔ m.keyword = word := by
  constructor
  · intro read
    unfold modifierOf at read
    split at read
    · rename_i found
      cases read
      exact Modifier.keyword_of_ofKeyword? found
    · cases read
  · rintro rfl
    rw [modifierOf, Modifier.ofKeyword?_keyword]

theorem modifierOf_eq_error_iff {word : String} {failure : Failure} :
    modifierOf word = .error failure ↔
      (∀ m : Modifier, m.keyword ≠ word) ∧
        failure = .model ("unknown modifier `" ++ word ++ "`") := by
  cases found : Modifier.ofKeyword? word with
  | some m =>
    have keyword := Modifier.keyword_of_ofKeyword? found
    have read := modifierOf_eq_ok_iff.mpr keyword
    simp only [read, reduceCtorEq, false_iff, not_and]
    intro unknown
    exact absurd keyword (unknown m)
  | none =>
    have unknown : ∀ m : Modifier, m.keyword ≠ word := by
      rintro m rfl
      rw [Modifier.ofKeyword?_keyword] at found
      cases found
    simp only [modifierOf, found, Except.error.injEq, eq_comm]
    exact (and_iff_right unknown).symm

namespace Demand

theorem failure?_eq_none_iff (demand : Demand) :
    demand.failure? = none ↔ demand.Readable := by
  cases demand with
  | type _ => simp only [failure?, failureOf_eq_none_iff, typeOf, mapError_eq_ok_iff, Readable]
  | generic _ =>
    simp only [failure?, failureOf_eq_none_iff, genericOf, mapError_eq_ok_iff, Readable]
  | modifier _ => simp only [failure?, failureOf_eq_none_iff, modifierOf_eq_ok_iff, Readable]

theorem failure?_eq_some_iff (demand : Demand) (failure : Failure) :
    demand.failure? = some failure ↔ demand.Refused failure := by
  cases demand with
  | type _ => simp only [failure?, failureOf_eq_some_iff, typeOf, mapError_eq_error_iff, Refused]
  | generic _ =>
    simp only [failure?, failureOf_eq_some_iff, genericOf, mapError_eq_error_iff, Refused]
  | modifier _ => simp only [failure?, failureOf_eq_some_iff, modifierOf_eq_error_iff, Refused]

end Demand

/-- The computation ends in such a value if all strings can be read, and in the failure of the
first one that cannot be read otherwise. -/
def Reads {α : Type} (demands : List Demand) (Value : α → Prop) (reading : Except Failure α) :
    Prop :=
  match demands.findSome? Demand.failure? with
  | none => ∃ a, reading = .ok a ∧ Value a
  | some failure => reading = .error failure

namespace Reads

variable {α β : Type} {demands demands' : List Demand} {Value : α → Prop} {Value' : β → Prop}
  {reading : Except Failure α}

theorem ok {a : α} (value : Value a) : Reads [] Value (.ok a) :=
  ⟨a, rfl, value⟩

theorem single {demand : Demand} (own : demand.failure? = failureOf reading) :
    Reads [demand] (fun a => reading = .ok a) reading := by
  unfold Reads
  rw [List.findSome?_singleton, own]
  cases reading with
  | ok a => exact ⟨a, rfl, rfl⟩
  | error failure => rfl

theorem bind {next : α → Except Failure β} (first : Reads demands Value reading)
    (continued : ∀ a, Value a → Reads demands' Value' (next a)) :
    Reads (demands ++ demands') Value' (reading >>= next) := by
  unfold Reads at first ⊢
  rw [List.findSome?_append]
  cases refused : demands.findSome? Demand.failure? with
  | none =>
    rw [refused] at first
    obtain ⟨a, rfl, value⟩ := first
    exact continued a value
  | some failure =>
    rw [refused] at first
    rw [Option.some_or, show reading = .error failure from first]
    rfl

theorem map {f : α → β} (first : Reads demands Value reading)
    (mapped : ∀ a, Value a → Value' (f a)) : Reads demands Value' (reading.map f) := by
  have continued : Reads (demands ++ []) Value' (reading >>= fun a => .ok (f a)) :=
    first.bind fun a value => ok (mapped a value)
  rw [List.append_nil] at continued
  cases reading <;> exact continued

theorem mapM {ι : Type} {demandsOf : ι → List Demand} {ValueOf : ι → α → Prop}
    {read : ι → Except Failure α} (each : ∀ item, Reads (demandsOf item) (ValueOf item) (read item))
    (items : List ι) :
    Reads (items.flatMap demandsOf) (List.Forall₂ ValueOf items) (items.mapM read) := by
  induction items with
  | nil => exact ok .nil
  | cons item rest ih =>
    -- The list reads its first item and then the rest, as `bind` chains any two steps.
    rw [List.flatMap_cons, List.mapM_cons]
    refine (each item).bind fun a value => ?_
    exact ih.map fun others values => .cons value values

theorem mapM_single {ι : Type} {demandOf : ι → Demand} {ValueOf : ι → α → Prop}
    {read : ι → Except Failure α} (each : ∀ item, Reads [demandOf item] (ValueOf item) (read item))
    (items : List ι) :
    Reads (items.map demandOf) (List.Forall₂ ValueOf items) (items.mapM read) := by
  rw [List.map_eq_flatMap]
  exact mapM each items

theorem ok_iff (reads : Reads demands Value reading) :
    (∃ a, reading = .ok a) ↔ ∀ demand ∈ demands, demand.Readable := by
  have readable : demands.findSome? Demand.failure? = none ↔
      ∀ demand ∈ demands, demand.Readable := by
    simp only [List.findSome?_eq_none_iff, Demand.failure?_eq_none_iff]
  rw [← readable]
  unfold Reads at reads
  split at reads
  · rename_i none
    obtain ⟨a, rfl, -⟩ := reads
    exact iff_of_true ⟨a, rfl⟩ none
  · rename_i some
    simp [reads, some]

theorem value {a : α} (reads : Reads demands Value reading) (ended : reading = .ok a) :
    Value a := by
  unfold Reads at reads
  split at reads
  · obtain ⟨b, rfl, value⟩ := reads
    cases ended
    exact value
  · rw [reads] at ended
    cases ended

theorem error_iff (reads : Reads demands Value reading) (failure : Failure) :
    reading = .error failure ↔
      ∃ before demand after, demands = before ++ demand :: after ∧
        (∀ earlier ∈ before, earlier.Readable) ∧ demand.Refused failure := by
  have first : demands.findSome? Demand.failure? = some failure ↔
      ∃ before demand after, demands = before ++ demand :: after ∧
        (∀ earlier ∈ before, earlier.Readable) ∧ demand.Refused failure := by
    simp only [List.findSome?_eq_some_iff, Demand.failure?_eq_none_iff,
      Demand.failure?_eq_some_iff, and_comm]
  rw [← first]
  unfold Reads at reads
  split at reads
  · rename_i none
    obtain ⟨a, rfl, -⟩ := reads
    simp [none]
  · rename_i failure' some
    simp [reads, some]

end Reads

theorem reads_type (expression : String) :
    Reads [.type expression] (fun t => parseType expression = .ok t) (typeOf expression) := by
  have reads : Reads [.type expression] (fun t => typeOf expression = .ok t) _ := .single rfl
  simpa only [typeOf, mapError_eq_ok_iff] using reads

theorem reads_generic (expression : String) :
    Reads [.generic expression] (fun g => parseGeneric expression = .ok g)
      (genericOf expression) := by
  have reads : Reads [.generic expression] (fun g => genericOf expression = .ok g) _ := .single rfl
  simpa only [genericOf, mapError_eq_ok_iff] using reads

theorem reads_modifier (word : String) :
    Reads [.modifier word] (fun m => m.keyword = word) (modifierOf word) := by
  have reads : Reads [.modifier word] (fun m => modifierOf word = .ok m) _ := .single rfl
  simpa only [modifierOf_eq_ok_iff] using reads

theorem reads_optionalType (expression : Option String) :
    Reads (expression.toList.map .type)
      (Option.Rel (fun expression t => parseType expression = .ok t) expression)
      (optionalTypeOf expression) := by
  cases expression with
  | none => exact .ok .none
  | some expression => exact (reads_type expression).map fun _ read => .some read

def ReadsModifiers (words : List String) (set : OrderedSet Modifier) : Prop :=
  ∃ modifiers : List Modifier,
    List.Forall₂ (fun word m => m.keyword = word) words modifiers ∧ set.toList = modifiers.eraseDups

theorem reads_modifiers (words : List String) :
    Reads (words.map .modifier) (ReadsModifiers words) (modifiersOf words) :=
  (Reads.mapM_single reads_modifier words).map fun modifiers read =>
    ⟨modifiers, read, OrderedSet.toList_ofList modifiers⟩

end SourceModel.Document
