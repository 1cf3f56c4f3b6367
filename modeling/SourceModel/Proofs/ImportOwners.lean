import SourceModel.Proofs.ShortNames

namespace SourceModel.ImportScope

/-- The name is that of the first explicit import with the simple name. -/
def FirstNamed (imports : List String) (simple name : String) : Prop :=
  ∃ before after, imports = before ++ name :: after ∧ wildcardPackage? name = none ∧
    simpleName name = simple ∧
    ∀ other ∈ before, wildcardPackage? other = none → simpleName other ≠ simple

theorem exists_firstNamed {imports : List String} {simple : String}
    (named : ∃ name ∈ imports, wildcardPackage? name = none ∧ simpleName name = simple) :
    ∃ first, FirstNamed imports simple first := by
  obtain ⟨name, mem, own⟩ := named
  have found : (imports.find? fun name =>
      decide (wildcardPackage? name = none ∧ simpleName name = simple)).isSome :=
    List.find?_isSome.mpr ⟨name, mem, decide_eq_true own⟩
  obtain ⟨first, isFirst⟩ := Option.isSome_iff_exists.mp found
  obtain ⟨own, before, after, split, others⟩ := List.find?_eq_some_iff_append.mp isFirst
  obtain ⟨explicit, same⟩ := of_decide_eq_true own
  refine ⟨first, before, after, split, explicit, same, fun other mem explicit same => ?_⟩
  have passed := others other mem
  simp [explicit, same] at passed

theorem owner?_addImport (scope : ImportScope) (name simple : String) :
    (scope.addImport name).owner? simple =
      (scope.owner? simple).or
        (if wildcardPackage? name = none ∧ simpleName name = simple then some name else none) := by
  rw [owner?, addImport, List.find?_append]
  congr 1
  simp [List.find?_singleton]

theorem owner?_addImport_of_owned {scope : ImportScope} {simple owner : String}
    (owned : scope.owner? simple = some owner) (name : String) :
    (scope.addImport name).owner? simple = some owner := by
  rw [owner?_addImport, owned, Option.some_or]

theorem owner?_addImport_of_other {scope : ImportScope} {name simple : String}
    (free : scope.owner? simple = none)
    (other : wildcardPackage? name = none → simpleName name ≠ simple) :
    (scope.addImport name).owner? simple = none := by
  rw [owner?_addImport, free, Option.none_or, if_neg]
  exact fun own => other own.1 own.2

def addImports (scope : ImportScope) (names : List String) : ImportScope :=
  names.foldl addImport scope

theorem addImports_eq (scope : ImportScope) (names : List String) :
    scope.addImports names = { scope with imports := scope.imports ++ names } := by
  induction names generalizing scope with
  | nil => simp [addImports]
  | cons name rest ih =>
    have others := ih (scope.addImport name)
    simpa [addImports, addImport] using others

theorem ofFile_eq_addImports (file : SourceFile) :
    ofFile file = (ImportScope.mk file.package? []).addImports
      ((file.imports.toList.filter fun imported => !imported.isStatic).map
        fun imported => imported.type.name) := by
  rw [addImports_eq]
  rfl

theorem owner?_addImports_of_owned {scope : ImportScope} {simple owner : String}
    (owned : scope.owner? simple = some owner) (names : List String) :
    (scope.addImports names).owner? simple = some owner := by
  induction names generalizing scope with
  | nil => exact owned
  | cons name rest ih => exact ih (owner?_addImport_of_owned owned name)

theorem owner?_addImports_of_others {scope : ImportScope} {names : List String} {simple : String}
    (free : scope.owner? simple = none)
    (others : ∀ name ∈ names, wildcardPackage? name = none → simpleName name ≠ simple) :
    (scope.addImports names).owner? simple = none := by
  induction names generalizing scope with
  | nil => exact free
  | cons name rest ih =>
    rw [List.forall_mem_cons] at others
    exact ih (owner?_addImport_of_other free others.1) others.2

theorem owner?_addImports {scope : ImportScope} {names : List String} {simple first : String}
    (free : scope.owner? simple = none) (isFirst : FirstNamed names simple first) :
    (scope.addImports names).owner? simple = some first := by
  obtain ⟨before, after, rfl, explicit, same, others⟩ := isFirst
  have unowned := owner?_addImports_of_others free others
  have owned : ((scope.addImports before).addImport first).owner? simple = some first := by
    rw [owner?_addImport, unowned, Option.none_or, if_pos ⟨explicit, same⟩]
  have kept := owner?_addImports_of_owned owned after
  simpa only [addImports, List.foldl_append, List.foldl_cons] using kept

/-- Of all types with a package and a simple name that some explicit import has, the type of the
first such import is written short and every other one qualified. -/
theorem shortName_addImports (package : Option String) {imports : List String} {simple : String}
    (named : ∃ name ∈ imports, wildcardPackage? name = none ∧ simpleName name = simple) :
    (∃ first, FirstNamed imports simple first) ∧
      ∀ first, FirstNamed imports simple first →
        ∀ name inner, packageName? name = some inner → simpleName name = simple →
          let written := ((ImportScope.mk package []).addImports imports).shortName name
          (written = simple ↔ name = first) ∧ (name ≠ first → written = name) := by
  refine ⟨exists_firstNamed named, ?_⟩
  rintro first isFirst name inner qualified rfl written
  have owned : ((ImportScope.mk package []).addImports imports).owner? (simpleName name) =
      some first := owner?_addImports rfl isFirst
  have seen := sees_iff_owner qualified owned
  have other : name ≠ first → written = name :=
    fun ne => shortName_of_owner_ne qualified owned ne.symm
  refine ⟨⟨fun short => ?_, fun own => shortName_of_sees (seen.mpr own.symm)⟩, other⟩
  by_cases own : name = first
  · exact own
  · exact absurd (short.symm.trans (other own)) (simpleName_ne qualified name)

theorem shortName_addImports_strings :
    (∃ name ∈ ["java.util.*", "com.acme.*", "org.other.String", "org.last.String"],
      wildcardPackage? name = none ∧ simpleName name = "String") ∧
    FirstNamed ["java.util.*", "com.acme.*", "org.other.String", "org.last.String"] "String"
      "org.other.String" ∧
    ∀ name ∈ ["java.lang.String", "java.util.String", "com.acme.String", "org.last.String"],
      ((ImportScope.mk (some "com.acme") []).addImports
        ["java.util.*", "com.acme.*", "org.other.String", "org.last.String"]).shortName name =
          name := by
  have isFirst : FirstNamed ["java.util.*", "com.acme.*", "org.other.String", "org.last.String"]
      "String" "org.other.String" :=
    ⟨["java.util.*", "com.acme.*"], ["org.last.String"], rfl, by decide, by decide, by decide⟩
  have named : ∃ name ∈ ["java.util.*", "com.acme.*", "org.other.String", "org.last.String"],
      wildcardPackage? name = none ∧ simpleName name = "String" :=
    ⟨"org.other.String", by decide, by decide, by decide⟩
  have written := (shortName_addImports (some "com.acme") named).2 _ isFirst
  refine ⟨named, isFirst, ?_⟩
  rw [List.forall_mem_cons, List.forall_mem_cons, List.forall_mem_cons, List.forall_mem_singleton]
  exact ⟨(written _ "java.lang" (by decide) (by decide)).2 (by decide),
    (written _ "java.util" (by decide) (by decide)).2 (by decide),
    (written _ "com.acme" (by decide) (by decide)).2 (by decide),
    (written _ "org.last" (by decide) (by decide)).2 (by decide)⟩

end SourceModel.ImportScope
