import SourceModel.ImportScope

namespace SourceModel
open Text

theorem splitLast?_append_cons (separator : Char) (before rest : List Char) :
    splitLast? separator (before ++ separator :: rest) =
      match splitLast? separator rest with
      | some (middle, after) => some (before ++ separator :: middle, after)
      | none => some (before, rest) := by
  induction before with
  | nil =>
    cases tail : splitLast? separator rest <;> simp [splitLast?, tail]
  | cons c before ih =>
    simp only [List.cons_append, splitLast?, ih]
    cases splitLast? separator rest <;> rfl

theorem splitLast?_eq_some_iff {separator : Char} {cs before after : List Char} :
    splitLast? separator cs = some (before, after) ↔
      cs = before ++ separator :: after ∧ separator ∉ after := by
  constructor
  · exact eq_of_splitLast?
  · rintro ⟨rfl, free⟩
    rw [splitLast?_append_cons, splitLast?_eq_none_iff.mpr free]

theorem packageName?_eq_some_iff {name package : String} :
    packageName? name = some package ↔ name = package ++ "." ++ simpleName name := by
  unfold packageName? simpleName
  constructor
  · intro h
    obtain ⟨⟨before, after⟩, split, rfl⟩ := Option.map_eq_some_iff.mp h
    obtain ⟨eq, -⟩ := eq_of_splitLast? split
    rw [split, ← String.toList_inj]
    simp [eq]
  · intro h
    cases split : splitLast? '.' name.toList with
    | none =>
      rw [split] at h
      have long := congrArg String.length h
      simp only [String.length_append] at long
      have dot : ".".length = 1 := rfl
      omega
    | some parts =>
      obtain ⟨before, after⟩ := parts
      obtain ⟨eq, -⟩ := eq_of_splitLast? split
      rw [split, ← String.toList_inj, eq] at h
      simp only [String.toList_append, String.toList_ofList, List.append_assoc] at h
      obtain rfl := List.append_cancel_right h
      simp

theorem dot_notMem_simpleName (name : String) : '.' ∉ (simpleName name).toList := by
  unfold simpleName
  split
  · rename_i split
    simpa using (eq_of_splitLast? split).2
  · rename_i split
    exact splitLast?_eq_none_iff.mp split

theorem simpleName_ne {name package : String} (qualified : packageName? name = some package)
    (other : String) : simpleName other ≠ name := by
  intro eq
  have free := dot_notMem_simpleName other
  rw [eq, packageName?_eq_some_iff.mp qualified] at free
  simp at free

theorem splitLast?_wildcard (package : String) :
    splitLast? '.' (package ++ ".*").toList = some (package.toList, ['*']) := by
  rw [splitLast?_eq_some_iff]
  simp

theorem packageName?_wildcard (package : String) :
    packageName? (package ++ ".*") = some package := by
  rw [packageName?, splitLast?_wildcard]
  simp

theorem wildcardPackage?_eq_some_iff {name package : String} :
    wildcardPackage? name = some package ↔ name = package ++ ".*" := by
  unfold wildcardPackage?
  constructor
  · intro h
    split at h
    · rename_i before split
      obtain rfl := Option.some.inj h
      rw [← String.toList_inj, (eq_of_splitLast? split).1]
      simp
    · cases h
  · rintro rfl
    rw [splitLast?_wildcard]
    simp

end SourceModel
