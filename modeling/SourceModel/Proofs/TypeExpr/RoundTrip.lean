import SourceModel.Proofs.QualifiedName
import SourceModel.Proofs.TypeExpr.Completeness
import SourceModel.Proofs.TypeText

namespace SourceModel

mutual
def TypeRef.mapNames (f : String → String) : TypeRef → TypeRef
  | .mk name arguments dimensions => .mk (f name) (TypeRef.mapNamesArguments f arguments) dimensions
def TypeRef.mapNamesArguments (f : String → String) : List Generic → List Generic
  | [] => []
  | g :: gs => Generic.mapNames f g :: TypeRef.mapNamesArguments f gs
def Generic.mapNames (f : String → String) : Generic → Generic
  | .mk lower bounds keyword => .mk lower (Generic.mapNamesBounds f bounds) keyword
def Generic.mapNamesBounds (f : String → String) : List TypeRef → List TypeRef
  | [] => []
  | t :: ts => TypeRef.mapNames f t :: Generic.mapNamesBounds f ts
end

theorem Generic.mapNames_ofType (f : String → String) (t : TypeRef) :
    (Generic.ofType t).mapNames f = .ofType (t.mapNames f) := rfl

theorem Generic.mapNames_wildcard (f : String → String) (keyword : BoundKeyword)
    (ts : List TypeRef) :
    (Generic.wildcard keyword ts).mapNames f = .wildcard keyword (Generic.mapNamesBounds f ts) :=
  rfl

namespace TypeExpr
open Text

theorem IsSpacing.cons_space {cs : List Char} (h : IsSpacing cs) : IsSpacing (' ' :: cs) :=
  isSpacing_singleton_space.append h

theorem DerivesArgument.cons_space {cs : List Char} {g : Generic} (h : DerivesArgument cs g) :
    DerivesArgument (' ' :: cs) g := by
  cases h with
  | type hb type ha => exact .type hb.cons_space type ha
  | wildcard hb ha => exact .wildcard hb.cons_space ha
  | bounded hb hg ng keyword hg' ng' bounds ha =>
    exact .bounded hb.cons_space hg ng keyword hg' ng' bounds ha

theorem DerivesArguments.cons_space {cs : List Char} {gs : List Generic}
    (h : DerivesArguments cs gs) : DerivesArguments (' ' :: cs) gs := by
  cases h with
  | last argument => exact .last argument.cons_space
  | more argument others => exact .more argument.cons_space others

theorem isDimensions_repeated (n : Nat) : IsDimensions (repeated "[]" n).toList n := by
  induction n with
  | zero => exact .none
  | succ n ih =>
    rw [repeated, String.toList_append]
    exact .pair isSpacing_nil isSpacing_nil ih

theorem IsName.ofList_ne_empty {cs : List Char} (h : IsName cs) : String.ofList cs ≠ "" := by
  intro empty
  obtain ⟨c, tail, rfl, -⟩ := h.exists_cons
  have none := congrArg String.toList empty
  simp at none

theorem derivesType_plain {name : String} (hn : IsName name.toList) (n : Nat) :
    DerivesType (name ++ "" ++ repeated "[]" n).toList (.mk name [] n) := by
  have derived := DerivesType.plain hn (isDimensions_repeated n)
  simpa using derived

theorem derivesType_generic {name inner : String} {gs : List Generic} (hn : IsName name.toList)
    (arguments : DerivesArguments inner.toList gs) (n : Nat) :
    DerivesType (name ++ ("<" ++ inner ++ ">") ++ repeated "[]" n).toList (.mk name gs n) := by
  have derived := DerivesType.generic hn isSpacing_nil arguments (isDimensions_repeated n)
  simpa using derived

section Written

variable {f : String → String}

mutual
theorem DerivesType.written (names : ∀ cs, IsName cs → IsName (f (String.ofList cs)).toList)
    {cs : List Char} {t : TypeRef} : DerivesType cs t →
      ∃ text, t.written f = .present text ∧ DerivesType text.toList (t.mapNames f)
  | @DerivesType.plain name brackets n hn hd => by
    refine ⟨_, ?_, derivesType_plain (names name hn) n⟩
    rw [TypeRef.written, if_neg hn.ofList_ne_empty]
    rfl
  | @DerivesType.generic name gap inner brackets gs n hn hg arguments hd => by
    obtain ⟨text, texts, eq, derived⟩ := arguments.written names
    refine ⟨_, ?_, derivesType_generic (names name hn) derived n⟩
    rw [TypeRef.written, if_neg hn.ofList_ne_empty, Joiner.join, eq]
    rfl
theorem DerivesArguments.written (names : ∀ cs, IsName cs → IsName (f (String.ofList cs)).toList)
    {cs : List Char} {gs : List Generic} : DerivesArguments cs gs →
      ∃ text texts, Fragment.texts (TypeRef.writtenArguments f gs) = text :: texts ∧
        DerivesArguments (joinWith ", " (text :: texts)).toList (TypeRef.mapNamesArguments f gs)
  | .last argument => by
    obtain ⟨text, eq, derived⟩ := argument.written names
    refine ⟨text, [], ?_, .last derived⟩
    rw [TypeRef.writtenArguments, eq]
    rfl
  | .more argument others => by
    obtain ⟨text, eq, derived⟩ := argument.written names
    obtain ⟨next, texts, eq', derived'⟩ := others.written names
    refine ⟨text, next :: texts, ?_, ?_⟩
    · rw [TypeRef.writtenArguments, eq, ← eq']
      rfl
    · have list := DerivesArguments.more derived derived'.cons_space
      rw [joinWith_cons_cons, TypeRef.mapNamesArguments]
      simpa using list
theorem DerivesArgument.written (names : ∀ cs, IsName cs → IsName (f (String.ofList cs)).toList)
    {cs : List Char} {g : Generic} : DerivesArgument cs g →
      ∃ text, g.written f = .present text ∧ DerivesArgument text.toList (g.mapNames f)
  | @DerivesArgument.type _ _ _ t hb type ha => by
    obtain ⟨text, eq, derived⟩ := type.written names
    refine ⟨text, (Generic.written_ofType f t).trans eq, ?_⟩
    have argument := DerivesArgument.type isSpacing_nil derived isSpacing_nil
    rw [Generic.mapNames_ofType]
    simpa using argument
  | .wildcard hb ha => by
    refine ⟨"?", ?_, .wildcard isSpacing_nil isSpacing_nil⟩
    rfl
  | @DerivesArgument.bounded _ _ _ _ _ ts hb hg ng keyword hg' ng' bounds ha => by
    obtain ⟨text, texts, eq, derived⟩ := bounds.written names
    refine ⟨_, Generic.written_bounded eq "?" keyword, ?_⟩
    have argument := DerivesArgument.bounded isSpacing_nil isSpacing_singleton_space (by simp)
      keyword isSpacing_singleton_space (by simp) derived isSpacing_nil
    rw [Generic.mapNames_wildcard]
    simpa using argument
theorem DerivesBounds.written (names : ∀ cs, IsName cs → IsName (f (String.ofList cs)).toList)
    {cs : List Char} {ts : List TypeRef} : DerivesBounds cs ts →
      ∃ text texts, Fragment.texts (Generic.writtenBounds f ts) = text :: texts ∧
        DerivesBounds (joinWith " & " (text :: texts)).toList (Generic.mapNamesBounds f ts)
  | .last type => by
    obtain ⟨text, eq, derived⟩ := type.written names
    refine ⟨text, [], ?_, .last derived⟩
    rw [Generic.writtenBounds, eq]
    rfl
  | .more type hb ha others => by
    obtain ⟨text, eq, derived⟩ := type.written names
    obtain ⟨next, texts, eq', derived'⟩ := others.written names
    refine ⟨text, next :: texts, ?_, ?_⟩
    · rw [Generic.writtenBounds, eq, ← eq']
      rfl
    · have list := DerivesBounds.more derived isSpacing_singleton_space isSpacing_singleton_space
        derived'
      rw [joinWith_cons_cons, Generic.mapNamesBounds]
      simpa using list
end

end Written

theorem IsIdentifier.dot_notMem {cs : List Char} (h : IsIdentifier cs) : '.' ∉ cs := by
  obtain ⟨start, parts⟩ := h
  intro mem
  rcases List.mem_cons.mp mem with rfl | mem
  · exact absurd start (by decide)
  · exact absurd (parts '.' mem) (by decide)

theorem IsName.of_splitLast? {cs before after : List Char} (h : IsName cs)
    (split : splitLast? '.' cs = some (before, after)) : IsName after := by
  induction h generalizing before with
  | identifier first =>
    rw [splitLast?_eq_none_iff.mpr first.dot_notMem] at split
    cases split
  | @qualified cs rest first others ih =>
    rw [splitLast?_append_cons] at split
    cases tail : splitLast? '.' rest with
    | none =>
      rw [tail] at split
      obtain ⟨-, rfl⟩ := Prod.mk.inj (Option.some.inj split)
      exact others
    | some parts =>
      obtain ⟨middle, behind⟩ := parts
      rw [tail] at split
      obtain ⟨-, rfl⟩ := Prod.mk.inj (Option.some.inj split)
      exact ih tail

theorem IsName.simpleName {name : String} (h : IsName name.toList) :
    IsName (simpleName name).toList := by
  unfold SourceModel.simpleName
  split
  · rename_i split
    rw [String.toList_ofList]
    exact h.of_splitLast? split
  · exact h

theorem IsName.shortName (scope : ImportScope) {name : String} (h : IsName name.toList) :
    IsName (scope.shortName name).toList := by
  unfold ImportScope.shortName
  split
  · exact h.simpleName
  · exact h

/-- What is written for a type that was read is present and reads back as that type with each name
as the scope writes it. -/
theorem parseType_rendered {source : String} {type : TypeRef} (parsed : parseType source = .ok type)
    (formatting : Formatting) (scope : ImportScope) :
    ∃ text, ((Dialect.java.registry.generator formatting scope).on (.type type)).outcome =
        .ok (.present text) ∧ parseType text = .ok (type.mapNames scope.shortName) := by
  obtain ⟨before, body, after, -, -, derived, -⟩ := exists_derivation_of_parseType parsed
  have names (cs : List Char) (hn : IsName cs) :
      IsName (scope.shortName (String.ofList cs)).toList :=
    IsName.shortName scope (by rwa [String.toList_ofList])
  obtain ⟨text, written, derived'⟩ := derived.written names
  refine ⟨text, ?_, ?_⟩
  · rw [java_writesTypes.outcome_on_type, written]
  · exact parseType_of_derives (by simp) isSpacing_nil derived' isSpacing_nil

theorem parseType_rendered_nested_wildcard :
    parseType " java.util.Map < K ,? super java.util.List<a.V[ ]> & b.W>" =
        .ok (.mk "java.util.Map" [.ofType (.ofName "K"), .wildcard .super
          [.mk "java.util.List" [.ofType (.mk "a.V" [] 1)] 0, .ofName "b.W"]] 0) ∧
      ∃ text,
        ((Dialect.java.registry.generator .standard ⟨some "a", ["java.util.*"]⟩).on
          (.type (.mk "java.util.Map" [.ofType (.ofName "K"), .wildcard .super
            [.mk "java.util.List" [.ofType (.mk "a.V" [] 1)] 0, .ofName "b.W"]] 0))).outcome =
              .ok (.present text) ∧
          parseType text =
            .ok ((TypeRef.mk "java.util.Map" [.ofType (.ofName "K"), .wildcard .super
              [.mk "java.util.List" [.ofType (.mk "a.V" [] 1)] 0, .ofName "b.W"]] 0).mapNames
                (ImportScope.mk (some "a") ["java.util.*"]).shortName) := by
  have parsed : parseType " java.util.Map < K ,? super java.util.List<a.V[ ]> & b.W>" =
      .ok (.mk "java.util.Map" [.ofType (.ofName "K"), .wildcard .super
        [.mk "java.util.List" [.ofType (.mk "a.V" [] 1)] 0, .ofName "b.W"]] 0) := by
    decide +kernel
  exact ⟨parsed, parseType_rendered parsed .standard ⟨some "a", ["java.util.*"]⟩⟩

end TypeExpr

end SourceModel
