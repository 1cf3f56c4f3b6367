import SourceModel.Proofs.QualifiedName

namespace SourceModel.ImportScope

/-- All types of the package are visible: it is the implicit one, the scope's own, or imported as
a whole. -/
def Opens (scope : ImportScope) (package : String) : Prop :=
  package = implicitPackage ∨ scope.package = some package ∨ package ++ ".*" ∈ scope.imports

variable {scope : ImportScope} {name package : String}

theorem importsPackage_iff :
    scope.importsPackage package = true ↔ package ++ ".*" ∈ scope.imports := by
  simp [importsPackage, wildcardPackage?_eq_some_iff]

theorem imports?_of_owner?_eq_none (qualified : packageName? name = some package)
    (free : scope.owner? (simpleName name) = none) :
    scope.imports? name = scope.importsPackage package := by
  simp [imports?, free, qualified]

theorem sees_iff_opens (qualified : packageName? name = some package)
    (free : scope.owner? (simpleName name) = none) :
    scope.sees name = true ↔ scope.Opens package := by
  have imported := imports?_of_owner?_eq_none qualified free
  simp [sees, qualified, shadows, free, imported, importsPackage_iff, Opens, or_assoc]

theorem sees_iff_owner {owner : String} (qualified : packageName? name = some package)
    (owned : scope.owner? (simpleName name) = some owner) :
    scope.sees name = true ↔ owner = name := by
  by_cases same : owner = name
  · simp [sees, qualified, shadows, owned, imports?, same]
  · simp [sees, qualified, shadows, owned, same]

theorem shortName_of_sees (seen : scope.sees name = true) :
    scope.shortName name = simpleName name :=
  if_pos seen

theorem shortName_of_not_sees (unseen : ¬ scope.sees name = true) : scope.shortName name = name :=
  if_neg unseen

variable {a b p q : String}

theorem sees_of_shortName_eq (hb : packageName? b = some q) (ne : a ≠ b)
    (eq : scope.shortName a = scope.shortName b) : scope.sees b = true := by
  by_cases seen : scope.sees b = true
  · exact seen
  · rw [shortName_of_not_sees seen] at eq
    by_cases seen' : scope.sees a = true
    · rw [shortName_of_sees seen'] at eq
      exact absurd eq (simpleName_ne hb a)
    · rw [shortName_of_not_sees seen'] at eq
      exact absurd eq ne

/-- Different types are written alike exactly if they have the same simple name, no explicit import
owns it, and all of each one's package is visible. -/
theorem shortName_eq_iff (ha : packageName? a = some p) (hb : packageName? b = some q)
    (ne : a ≠ b) :
    scope.shortName a = scope.shortName b ↔
      simpleName a = simpleName b ∧ scope.owner? (simpleName a) = none ∧
        scope.Opens p ∧ scope.Opens q := by
  constructor
  · intro eq
    have seenB := sees_of_shortName_eq hb ne eq
    have seenA := sees_of_shortName_eq ha ne.symm eq.symm
    rw [shortName_of_sees seenA, shortName_of_sees seenB] at eq
    cases owned : scope.owner? (simpleName a) with
    | some owner =>
      have ownerA := (sees_iff_owner ha owned).mp seenA
      have ownerB := (sees_iff_owner hb (eq ▸ owned)).mp seenB
      exact absurd (ownerA.symm.trans ownerB) ne
    | none =>
      have opensA := (sees_iff_opens ha owned).mp seenA
      have opensB := (sees_iff_opens hb (eq ▸ owned)).mp seenB
      exact ⟨eq, rfl, opensA, opensB⟩
  · rintro ⟨eq, free, opensA, opensB⟩
    have seenA := (sees_iff_opens ha free).mpr opensA
    have seenB := (sees_iff_opens hb (eq ▸ free)).mpr opensB
    rw [shortName_of_sees seenA, shortName_of_sees seenB, eq]

theorem shortName_eq_iff_two_lists :
    packageName? "java.util.List" = some "java.util" ∧
      packageName? "java.awt.List" = some "java.awt" ∧ "java.util.List" ≠ "java.awt.List" ∧
      ((ImportScope.mk (some "java.awt") ["java.util.List"]).shortName "java.util.List" =
          (ImportScope.mk (some "java.awt") ["java.util.List"]).shortName "java.awt.List" ↔
        simpleName "java.util.List" = simpleName "java.awt.List" ∧
          (ImportScope.mk (some "java.awt") ["java.util.List"]).owner?
            (simpleName "java.util.List") = none ∧
          (ImportScope.mk (some "java.awt") ["java.util.List"]).Opens "java.util" ∧
          (ImportScope.mk (some "java.awt") ["java.util.List"]).Opens "java.awt") :=
  ⟨by decide, by decide, by decide, shortName_eq_iff (by decide) (by decide) (by decide)⟩

/-- Without an explicit import, a type of the file's own package and one of the implicit package
are both written by the simple name that they share. -/
theorem shortName_not_injective :
    ¬ ∀ (scope : ImportScope) (a b p q : String), packageName? a = some p →
      packageName? b = some q → a ≠ b → scope.shortName a ≠ scope.shortName b := by
  intro apart
  refine apart ⟨some "com.acme", []⟩ "java.lang.String" "com.acme.String" "java.lang" "com.acme"
    ?_ ?_ ?_ ?_
  all_goals decide

end SourceModel.ImportScope
