import Mathlib.Data.List.Basic
import Mathlib.Data.List.TakeWhile
import SourceModel.TypeExpr.Parse

/-!
# The grammar of type expressions

```text
name       ::= identifier ('.' identifier)*
type       ::= name (ws '<' arguments '>')? (ws '[' ws ']')*
arguments  ::= argument (',' argument)*
argument   ::= ws (type | '?' | '?' ws+ ('extends' | 'super') ws+ bounds) ws
bounds     ::= type (ws '&' ws type)*
```
-/

namespace SourceModel.TypeExpr
open Text

def IsSpacing (cs : List Char) : Prop := ∀ c ∈ cs, isSpacing c = true

inductive IsIdentifier : List Char → Prop
  | mk {c : Char} {cs : List Char} (start : isNameStart c = true)
      (parts : ∀ d ∈ cs, isNamePart d = true) : IsIdentifier (c :: cs)

inductive IsName : List Char → Prop
  | identifier {cs : List Char} (first : IsIdentifier cs) : IsName cs
  | qualified {cs rest : List Char} (first : IsIdentifier cs) (others : IsName rest) :
      IsName (cs ++ '.' :: rest)

inductive IsDimensions : List Char → Nat → Prop
  | none : IsDimensions [] 0
  | pair {before within rest : List Char} {n : Nat} (hb : IsSpacing before)
      (hw : IsSpacing within) (others : IsDimensions rest n) :
      IsDimensions (before ++ '[' :: within ++ ']' :: rest) (n + 1)

mutual
inductive DerivesType : List Char → TypeRef → Prop
  | plain {name brackets : List Char} {n : Nat} (hn : IsName name)
      (hd : IsDimensions brackets n) :
      DerivesType (name ++ brackets) (.mk (String.ofList name) [] n)
  | generic {name gap inner brackets : List Char} {gs : List Generic} {n : Nat}
      (hn : IsName name) (hg : IsSpacing gap) (arguments : DerivesArguments inner gs)
      (hd : IsDimensions brackets n) :
      DerivesType (name ++ gap ++ '<' :: inner ++ '>' :: brackets)
        (.mk (String.ofList name) gs n)
inductive DerivesArguments : List Char → List Generic → Prop
  | last {cs : List Char} {g : Generic} (argument : DerivesArgument cs g) :
      DerivesArguments cs [g]
  | more {cs rest : List Char} {g : Generic} {gs : List Generic}
      (argument : DerivesArgument cs g) (others : DerivesArguments rest gs) :
      DerivesArguments (cs ++ ',' :: rest) (g :: gs)
/-- The text is derived from `argument`, the spacing around it included. -/
inductive DerivesArgument : List Char → Generic → Prop
  | type {before cs after : List Char} {t : TypeRef} (hb : IsSpacing before)
      (type : DerivesType cs t) (ha : IsSpacing after) :
      DerivesArgument (before ++ cs ++ after) (.ofType t)
  | wildcard {before after : List Char} (hb : IsSpacing before) (ha : IsSpacing after) :
      DerivesArgument (before ++ '?' :: after) (.wildcard .extend [])
  | bounded {before gap gap' cs after : List Char} {ts : List TypeRef} (hb : IsSpacing before)
      (hg : IsSpacing gap) (ng : gap ≠ []) (keyword : BoundKeyword) (hg' : IsSpacing gap')
      (ng' : gap' ≠ []) (bounds : DerivesBounds cs ts) (ha : IsSpacing after) :
      DerivesArgument (before ++ '?' :: gap ++ keyword.name.toList ++ gap' ++ cs ++ after)
        (.wildcard keyword ts)
inductive DerivesBounds : List Char → List TypeRef → Prop
  | last {cs : List Char} {t : TypeRef} (type : DerivesType cs t) : DerivesBounds cs [t]
  | more {cs before after rest : List Char} {t : TypeRef} {ts : List TypeRef}
      (type : DerivesType cs t) (hb : IsSpacing before) (ha : IsSpacing after)
      (others : DerivesBounds rest ts) :
      DerivesBounds (cs ++ before ++ '&' :: after ++ rest) (t :: ts)
end

inductive DerivesWildcard : List Char → Generic → Prop
  | bare : DerivesWildcard ['?'] (.wildcard .extend [])
  | bounded {gap gap' cs : List Char} {ts : List TypeRef} (hg : IsSpacing gap) (ng : gap ≠ [])
      (keyword : BoundKeyword) (hg' : IsSpacing gap') (ng' : gap' ≠ [])
      (bounds : DerivesBounds cs ts) :
      DerivesWildcard ('?' :: gap ++ keyword.name.toList ++ gap' ++ cs) (.wildcard keyword ts)

theorem DerivesWildcard.argument {before cs after : List Char} {g : Generic}
    (h : DerivesWildcard cs g) (hb : IsSpacing before) (ha : IsSpacing after) :
    DerivesArgument (before ++ cs ++ after) g := by
  cases h with
  | bare => simpa using DerivesArgument.wildcard hb ha
  | bounded hg ng keyword hg' ng' bounds =>
    simpa using DerivesArgument.bounded hb hg ng keyword hg' ng' bounds ha

@[simp] theorem isSpacing_nil : IsSpacing [] := by simp [IsSpacing]

theorem isSpacing_singleton_space : IsSpacing [' '] := by
  intro c mem
  obtain rfl := List.mem_singleton.mp mem
  rfl

theorem IsSpacing.append {before after : List Char} (hb : IsSpacing before)
    (ha : IsSpacing after) : IsSpacing (before ++ after) := by
  intro c mem
  rcases List.mem_append.mp mem with mem | mem
  · exact hb c mem
  · exact ha c mem

theorem skipSpacing_append {gap : List Char} (hg : IsSpacing gap) (rest : List Char) :
    skipSpacing (gap ++ rest) = skipSpacing rest :=
  List.dropWhile_append_of_pos hg

theorem skipSpacing_eq_nil_of_isSpacing {gap : List Char} (hg : IsSpacing gap) :
    skipSpacing gap = [] := by
  have h := skipSpacing_append hg []
  rwa [List.append_nil] at h

theorem skipSpacing_cons {c : Char} (h : isSpacing c = false) (rest : List Char) :
    skipSpacing (c :: rest) = c :: rest := by
  simp [skipSpacing, h]

theorem exists_spacing (cs : List Char) : ∃ gap, cs = gap ++ skipSpacing cs ∧ IsSpacing gap := by
  refine ⟨cs.takeWhile isSpacing, ?_, ?_⟩
  · exact List.takeWhile_append_dropWhile.symm
  · intro c mem
    exact List.mem_takeWhile_imp mem

theorem isNamePart_of_isSpacing {c : Char} (h : isSpacing c = true) : isNamePart c = false := by
  simp only [isSpacing, Bool.or_eq_true, beq_iff_eq] at h
  rcases h with ((rfl | rfl) | rfl) | rfl <;> decide

end SourceModel.TypeExpr
