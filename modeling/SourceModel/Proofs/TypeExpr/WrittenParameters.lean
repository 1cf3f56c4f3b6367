import SourceModel.Proofs.TypeExpr.Parameters
import SourceModel.Proofs.TypeExpr.RoundTrip

namespace SourceModel

def TypeRef.IsSingleName (t : TypeRef) : Prop :=
  '.' ∉ t.name.toList ∧ t.arguments = [] ∧ t.dimensions = 0

instance : DecidablePred TypeRef.IsSingleName :=
  fun _ => inferInstanceAs (Decidable (_ ∧ _ ∧ _))

/-- The parameter that the expression of a type is read as. -/
def TypeRef.asParameter (t : TypeRef) : Generic :=
  if t.IsSingleName then .ofName t.name else .ofType t

theorem simpleName_of_undotted {name : String} (undotted : '.' ∉ name.toList) :
    simpleName name = name := by
  simp [simpleName, Text.splitLast?_eq_none_iff.mpr undotted]

namespace ImportScope

theorem shortName_of_undotted (scope : ImportScope) {name : String}
    (undotted : '.' ∉ name.toList) : scope.shortName name = name := by
  rw [shortName, simpleName_of_undotted undotted, ite_self]

theorem shortName_shortName (scope : ImportScope) (name : String) :
    scope.shortName (scope.shortName name) = scope.shortName name := by
  by_cases seen : scope.sees name = true
  · have short : scope.shortName name = simpleName name := if_pos seen
    rw [short, scope.shortName_of_undotted (dot_notMem_simpleName name)]
  · have long : scope.shortName name = name := if_neg seen
    rw [long, long]

end ImportScope

namespace TypeExpr
open Text

theorem IsName.isIdentifier {cs : List Char} (h : IsName cs) (undotted : '.' ∉ cs) :
    IsIdentifier cs := by
  cases h with
  | identifier first => exact first
  | qualified first others => exact absurd (by simp) undotted

theorem DerivesType.isSingleName_iff {cs : List Char} {t : TypeRef} (h : DerivesType cs t) :
    t.IsSingleName ↔ IsIdentifier cs := by
  constructor
  · rintro ⟨undotted, bare, flat⟩
    cases h with
    | plain hn hd =>
      obtain rfl : _ = 0 := flat
      cases hd
      rw [List.append_nil]
      exact hn.isIdentifier (by simpa [TypeRef.name] using undotted)
    | generic hn hg arguments hd =>
      cases arguments <;> cases bare
  · intro single
    obtain rfl := h.unique single.derivesType
    exact ⟨by simpa [TypeRef.ofName, TypeRef.name] using single.dot_notMem, rfl, rfl⟩

theorem DerivesType.asParameter {cs : List Char} {t : TypeRef} (h : DerivesType cs t) :
    DerivesParameter cs t.asParameter := by
  by_cases single : IsIdentifier cs
  · obtain rfl := h.unique single.derivesType
    rw [TypeRef.asParameter, if_pos (h.isSingleName_iff.mpr single)]
    exact .identifier single
  · rw [TypeRef.asParameter, if_neg fun name => single (h.isSingleName_iff.mp name)]
    exact .type h single

theorem parseGeneric_of_parseType {source : String} {type : TypeRef}
    (parsed : parseType source = .ok type) : parseGeneric source = .ok type.asParameter := by
  obtain ⟨before, body, after, eq, hb, derived, ha⟩ := exists_derivation_of_parseType parsed
  exact (parseGeneric_eq_ok_iff source _).mpr ⟨before, body, after, eq, hb, derived.asParameter, ha⟩

theorem DerivesBounds.ne_nil {cs : List Char} {ts : List TypeRef} (h : DerivesBounds cs ts) :
    ts ≠ [] := by
  cases h <;> simp

theorem DerivesParameter.exists_type_or_bounded {cs : List Char} {g : Generic}
    (h : DerivesParameter cs g) :
    (∃ t, DerivesType cs t) ∨ (∃ keyword bounds, g = .wildcard keyword bounds) ∨
      ∃ name bounds, IsIdentifier name.toList ∧ bounds ≠ [] ∧
        g = .mk (some name) bounds .extend := by
  cases h with
  | identifier hn => exact .inl ⟨_, hn.derivesType⟩
  | named hn hg ng hg' ng' bounds =>
    exact .inr (.inr ⟨_, _, by rwa [String.toList_ofList], bounds.ne_nil, rfl⟩)
  | wildcard wildcard =>
    refine .inr (.inl ?_)
    cases wildcard with
    | bare => exact ⟨_, _, rfl⟩
    | bounded => exact ⟨_, _, rfl⟩
  | type type ne => exact .inl ⟨_, type⟩

/-- Names are made shorter names, and undotted and short names stay as they are. -/
structure Shortens (f : String → String) : Prop where
  isName : ∀ cs, IsName cs → IsName (f (String.ofList cs)).toList
  undotted : ∀ name : String, '.' ∉ name.toList → f name = name
  again : ∀ name, f (f name) = f name

theorem shortens_shortName (scope : ImportScope) : Shortens scope.shortName where
  isName cs hn := IsName.shortName scope (by rwa [String.toList_ofList])
  undotted _ := scope.shortName_of_undotted
  again := scope.shortName_shortName

section Written

variable {f : String → String}

theorem Shortens.ne_empty (h : Shortens f) {cs : List Char} (hn : IsName cs) :
    f (String.ofList cs) ≠ "" := by
  have named := (h.isName cs hn).ofList_ne_empty
  rwa [String.ofList_toList] at named

mutual
theorem DerivesType.written_mapNames (h : Shortens f) {cs : List Char} {t : TypeRef} :
    DerivesType cs t → (t.mapNames f).written f = t.written f
  | .plain hn hd => by
    rw [TypeRef.mapNames, TypeRef.written, TypeRef.written, if_neg (h.ne_empty hn),
      if_neg hn.ofList_ne_empty, h.again]
    rfl
  | .generic hn hg arguments hd => by
    rw [TypeRef.mapNames, TypeRef.written, TypeRef.written, if_neg (h.ne_empty hn),
      if_neg hn.ofList_ne_empty, h.again, arguments.written_mapNames h]
theorem DerivesArguments.written_mapNames (h : Shortens f) {cs : List Char} {gs : List Generic} :
    DerivesArguments cs gs →
      TypeRef.writtenArguments f (TypeRef.mapNamesArguments f gs) = TypeRef.writtenArguments f gs
  | .last argument => by
    simp only [TypeRef.mapNamesArguments, TypeRef.writtenArguments, argument.written_mapNames h]
  | .more argument others => by
    rw [TypeRef.mapNamesArguments, TypeRef.writtenArguments, argument.written_mapNames h,
      others.written_mapNames h, TypeRef.writtenArguments]
theorem DerivesArgument.written_mapNames (h : Shortens f) {cs : List Char} {g : Generic} :
    DerivesArgument cs g → (g.mapNames f).written f = g.written f
  | @DerivesArgument.type _ _ _ t hb type ha => by
    rw [Generic.mapNames_ofType, Generic.written_ofType, Generic.written_ofType,
      type.written_mapNames h]
  | .wildcard hb ha => rfl
  | .bounded hb hg ng keyword hg' ng' bounds ha => by
    rw [Generic.wildcard, Generic.mapNames, Generic.written, Generic.written,
      bounds.written_mapNames h]
theorem DerivesBounds.written_mapNames (h : Shortens f) {cs : List Char} {ts : List TypeRef} :
    DerivesBounds cs ts →
      Generic.writtenBounds f (Generic.mapNamesBounds f ts) = Generic.writtenBounds f ts
  | .last type => by
    simp only [Generic.mapNamesBounds, Generic.writtenBounds, type.written_mapNames h]
  | .more type hb ha others => by
    rw [Generic.mapNamesBounds, Generic.writtenBounds, type.written_mapNames h,
      others.written_mapNames h, Generic.writtenBounds]
end

theorem DerivesType.written_asParameter (h : Shortens f) {cs : List Char} {t : TypeRef}
    (derived : DerivesType cs t) : t.asParameter.written f = t.written f := by
  by_cases single : IsIdentifier cs
  · obtain rfl := derived.unique single.derivesType
    have name : '.' ∉ (String.ofList cs).toList := by simpa using single.dot_notMem
    rw [TypeRef.asParameter, if_pos (derived.isSingleName_iff.mpr single), Generic.written_ofName,
      TypeRef.ofName, TypeRef.written, if_neg (IsName.identifier single).ofList_ne_empty,
      h.undotted _ name]
    simp [TypeRef.name, TypeRef.writtenArguments, Joiner.join, Fragment.texts,
      Fragment.textOrEmpty, Fragment.text?, Text.repeated]
  · rw [TypeRef.asParameter, if_neg fun name => single (derived.isSingleName_iff.mp name),
      Generic.written_ofType]

theorem DerivesBounds.written_bounded (h : Shortens f) {cs : List Char} {ts : List TypeRef}
    (bounds : DerivesBounds cs ts) (lower : String) (keyword : BoundKeyword) :
    ∃ inner : String, DerivesBounds inner.toList (Generic.mapNamesBounds f ts) ∧
      ∀ ts' ∈ [ts, Generic.mapNamesBounds f ts], (Generic.mk (some lower) ts' keyword).written f =
        .present (lower ++ " " ++ (keyword.name ++ " " ++ inner)) := by
  obtain ⟨text, texts, eq, derived⟩ := bounds.written h.isName
  refine ⟨_, derived, ?_⟩
  simp only [List.mem_cons, List.not_mem_nil, or_false, forall_eq_or_imp, forall_eq]
  exact ⟨Generic.written_bounded eq lower keyword,
    Generic.written_bounded ((congrArg _ (bounds.written_mapNames h)).trans eq) lower keyword⟩

theorem DerivesParameter.written (h : Shortens f) {cs : List Char} {g : Generic}
    (derived : DerivesParameter cs g) :
    ∃ text g', g.written f = .present text ∧ DerivesParameter text.toList g' ∧
      g'.written f = .present text := by
  cases derived with
  | @identifier name hn =>
    refine ⟨String.ofList cs, .ofName (String.ofList cs), ?_, ?_, ?_⟩
    · exact Generic.written_ofName f _
    · rw [String.toList_ofList]
      exact .identifier hn
    · exact Generic.written_ofName f _
  | @named name gap gap' inner ts hn hg ng hg' ng' bounds =>
    obtain ⟨inner, derived, written⟩ := bounds.written_bounded h (String.ofList name) .extend
    refine ⟨_, .mk (some (String.ofList name)) (Generic.mapNamesBounds f ts) .extend,
      written ts (by simp), ?_, written _ (by simp)⟩
    have parameter := DerivesParameter.named hn isSpacing_singleton_space (by simp)
      isSpacing_singleton_space (by simp) derived
    simpa using parameter
  | wildcard wildcard =>
    cases wildcard with
    | bare => exact ⟨"?", .wildcard .extend [], rfl, .wildcard .bare, rfl⟩
    | @bounded gap gap' inner ts hg ng keyword hg' ng' bounds =>
      obtain ⟨inner, derived, written⟩ := bounds.written_bounded h "?" keyword
      refine ⟨_, .wildcard keyword (Generic.mapNamesBounds f ts), written ts (by simp), ?_,
        written _ (by simp)⟩
      have wildcard := DerivesWildcard.bounded isSpacing_singleton_space (by simp) keyword
        isSpacing_singleton_space (by simp) derived
      exact .wildcard (by simpa using wildcard)
  | @type _ t type ne =>
    obtain ⟨text, written, derived⟩ := type.written h.isName
    refine ⟨text, (t.mapNames f).asParameter, ?_, derived.asParameter, ?_⟩
    · rw [Generic.written_ofType, written]
    · rw [derived.written_asParameter h, type.written_mapNames h, written]

end Written

/-- Every type is read as a parameter too, the others are wildcards and bounded names, and what is
written for a parameter reads back as one that is written the same. -/
theorem parseGeneric_rendered (source : String) :
    (∀ type, parseType source = .ok type →
      parseGeneric source = .ok type.asParameter ∧
      ∀ (formatting : Formatting) (scope : ImportScope), ∃ text,
        ((Dialect.java.registry.generator formatting scope).on
          (.generic type.asParameter)).outcome = .ok (.present text) ∧
        ((Dialect.java.registry.generator formatting scope).on (.type type)).outcome =
          .ok (.present text)) ∧
    (∀ generic e, parseGeneric source = .ok generic → parseType source = .error e →
      (∃ keyword bounds, generic = .wildcard keyword bounds) ∨
        ∃ name bounds, IsIdentifier name.toList ∧ bounds ≠ [] ∧
          generic = .mk (some name) bounds .extend) ∧
    (∀ generic, parseGeneric source = .ok generic →
      ∀ (formatting : Formatting) (scope : ImportScope), ∃ text again,
        ((Dialect.java.registry.generator formatting scope).on (.generic generic)).outcome =
          .ok (.present text) ∧
        parseGeneric text = .ok again ∧
        ((Dialect.java.registry.generator formatting scope).on (.generic again)).outcome =
          .ok (.present text)) := by
  refine ⟨?_, ?_, ?_⟩
  · intro type parsed
    refine ⟨parseGeneric_of_parseType parsed, fun formatting scope => ?_⟩
    obtain ⟨before, body, after, -, -, derived, -⟩ := exists_derivation_of_parseType parsed
    have shortens := shortens_shortName scope
    obtain ⟨text, written, -⟩ := derived.written shortens.isName
    refine ⟨text, ?_, ?_⟩
    · rw [java_writesTypes.outcome_on_generic, derived.written_asParameter shortens, written]
    · rw [java_writesTypes.outcome_on_type, written]
  · intro generic e parsed rejected
    obtain ⟨before, body, after, eq, hb, derived, ha⟩ := (parseGeneric_eq_ok_iff _ _).mp parsed
    rcases derived.exists_type_or_bounded with ⟨t, type⟩ | bounded
    · rw [parseType_of_derives eq hb type ha] at rejected
      cases rejected
    · exact bounded
  · intro generic parsed formatting scope
    obtain ⟨before, body, after, -, -, derived, -⟩ := (parseGeneric_eq_ok_iff _ _).mp parsed
    obtain ⟨text, again, written, derived', written'⟩ := derived.written (shortens_shortName scope)
    refine ⟨text, again, ?_, ?_, ?_⟩
    · rw [java_writesTypes.outcome_on_generic, written]
    · exact (parseGeneric_eq_ok_iff _ _).mpr ⟨[], text.toList, [], by simp, isSpacing_nil, derived',
        isSpacing_nil⟩
    · rw [java_writesTypes.outcome_on_generic, written']

theorem parseGeneric_rendered_comparable :
    (parseType " T" = .ok (.ofName "T") ∧
      parseGeneric " T" = .ok (TypeRef.ofName "T").asParameter) ∧
    ∃ generic e, parseGeneric "T extends a.Comparable<T>" = .ok generic ∧
      parseType "T extends a.Comparable<T>" = .error e ∧
      ((∃ keyword bounds, generic = .wildcard keyword bounds) ∨
        ∃ name bounds, IsIdentifier name.toList ∧ bounds ≠ [] ∧
          generic = .mk (some name) bounds .extend) ∧
      ∃ text again,
        ((Dialect.java.registry.generator .standard ⟨some "a", []⟩).on
          (.generic generic)).outcome = .ok (.present text) ∧
        parseGeneric text = .ok again ∧
        ((Dialect.java.registry.generator .standard ⟨some "a", []⟩).on
          (.generic again)).outcome = .ok (.present text) := by
  have name : parseType " T" = .ok (.ofName "T") := by decide +kernel
  have bounded : parseGeneric "T extends a.Comparable<T>" =
      .ok (.mk (some "T") [.mk "a.Comparable" [.ofType (.ofName "T")] 0] .extend) := by
    decide +kernel
  have rejected : parseType "T extends a.Comparable<T>" =
      .error ⟨[trailingDiagnostic "type expression" "T extends a.Comparable<T>".toList
        "extends a.Comparable<T>".toList]⟩ := by
    decide +kernel
  obtain ⟨-, others, again⟩ := parseGeneric_rendered "T extends a.Comparable<T>"
  exact ⟨⟨name, ((parseGeneric_rendered " T").1 _ name).1⟩, _, _, bounded, rejected,
    others _ _ bounded rejected, again _ bounded .standard ⟨some "a", []⟩⟩

end TypeExpr
end SourceModel
