import SourceModel.Proofs.TypeExpr.Soundness

namespace SourceModel.TypeExpr
open Text

/-- Goes on by a character from a position in bytes and the positions of the opening brackets that
are not closed there, the innermost first. -/
def passAngle (state : Nat × List Nat) (c : Char) : Nat × List Nat :=
  (state.1 + c.utf8Size,
    if c = '<' then state.1 :: state.2 else if c = '>' then state.2.tail else state.2)

def innermostAngle? (text : String) : Option Nat :=
  (text.toList.foldl passAngle (0, [])).2.head?

example : innermostAngle? "Map<K, List<V>, Set<é<x>" = some 19 := by decide +kernel

/-- The text closes the brackets that it opens, and no others. -/
def Balanced (cs : List Char) : Prop :=
  ∀ state : Nat × List Nat, (cs.foldl passAngle state).2 = state.2

theorem foldl_passAngle_fst (cs : List Char) (state : Nat × List Nat) :
    (cs.foldl passAngle state).1 = state.1 + utf8Length cs := by
  induction cs generalizing state with
  | nil => rfl
  | cons c rest ih => rw [List.foldl_cons, ih, passAngle, utf8Length, Nat.add_assoc]

namespace Balanced

theorem nil : Balanced [] := fun _ => rfl

theorem append {before after : List Char} (hb : Balanced before) (ha : Balanced after) :
    Balanced (before ++ after) := by
  intro state
  rw [List.foldl_append, ha, hb]

theorem cons {c : Char} {cs : List Char} (opens : c ≠ '<') (closes : c ≠ '>')
    (h : Balanced cs) : Balanced (c :: cs) := by
  intro state
  rw [List.foldl_cons, h, passAngle, if_neg opens, if_neg closes]

theorem of_forall {cs : List Char} (plain : ∀ c ∈ cs, c ≠ '<' ∧ c ≠ '>') : Balanced cs := by
  induction cs with
  | nil => exact nil
  | cons c rest ih =>
    obtain ⟨⟨opens, closes⟩, others⟩ := List.forall_mem_cons.mp plain
    exact (ih others).cons opens closes

theorem enclosed {inner rest : List Char} (hi : Balanced inner) (hr : Balanced rest) :
    Balanced ('<' :: inner ++ '>' :: rest) := by
  intro state
  rw [List.foldl_append, List.foldl_cons, List.foldl_cons, hr, passAngle, hi]
  rfl

end Balanced

theorem innermostAngle?_append (before : List Char) {inner : List Char} (h : Balanced inner) :
    innermostAngle? (String.ofList (before ++ '<' :: inner)) = some (utf8Length before) := by
  rw [innermostAngle?, String.toList_ofList, List.foldl_append, List.foldl_cons, h, passAngle,
    foldl_passAngle_fst, Nat.zero_add]
  rfl

theorem ne_angle_of_isNamePart {c : Char} (h : isNamePart c = true) : c ≠ '<' ∧ c ≠ '>' := by
  constructor
  · rintro rfl
    exact absurd h (by decide)
  · rintro rfl
    exact absurd h (by decide)

theorem ne_angle_of_isSpacing {c : Char} (h : isSpacing c = true) : c ≠ '<' ∧ c ≠ '>' := by
  constructor
  · rintro rfl
    cases h
  · rintro rfl
    cases h

theorem IsSpacing.balanced {cs : List Char} (h : IsSpacing cs) : Balanced cs :=
  .of_forall fun c mem => ne_angle_of_isSpacing (h c mem)

theorem IsIdentifier.balanced {cs : List Char} (h : IsIdentifier cs) : Balanced cs := by
  obtain ⟨start, parts⟩ := h
  refine .of_forall fun c mem => ne_angle_of_isNamePart ?_
  rcases List.mem_cons.mp mem with rfl | mem
  · exact isNamePart_of_isNameStart start
  · exact parts c mem

theorem IsName.balanced {cs : List Char} (h : IsName cs) : Balanced cs := by
  induction h with
  | identifier first => exact first.balanced
  | qualified first others ih => exact first.balanced.append (ih.cons (by decide) (by decide))

theorem IsDimensions.balanced {cs : List Char} {n : Nat} (h : IsDimensions cs n) : Balanced cs := by
  induction h with
  | none => exact .nil
  | pair hb hw others ih =>
    have within := hw.balanced.cons (c := '[') (by decide) (by decide)
    exact (hb.balanced.append within).append (ih.cons (by decide) (by decide))

theorem balanced_keyword (keyword : BoundKeyword) : Balanced keyword.name.toList := by
  refine .of_forall ?_
  cases keyword <;> simp [BoundKeyword.name]

mutual
theorem DerivesType.balanced {cs : List Char} {t : TypeRef} : DerivesType cs t → Balanced cs
  | .plain hn hd => hn.balanced.append hd.balanced
  | .generic hn hg arguments hd => by
    have list := arguments.balanced.enclosed hd.balanced
    rw [List.append_assoc]
    exact (hn.balanced.append hg.balanced).append list
theorem DerivesArguments.balanced {cs : List Char} {gs : List Generic} :
    DerivesArguments cs gs → Balanced cs
  | .last argument => argument.balanced
  | .more argument others =>
    argument.balanced.append (others.balanced.cons (by decide) (by decide))
theorem DerivesArgument.balanced {cs : List Char} {g : Generic} : DerivesArgument cs g → Balanced cs
  | .type hb type ha => (hb.balanced.append type.balanced).append ha.balanced
  | .wildcard hb ha => hb.balanced.append (ha.balanced.cons (by decide) (by decide))
  | .bounded hb hg _ keyword hg' _ bounds ha => by
    have marked := hb.balanced.append (hg.balanced.cons (c := '?') (by decide) (by decide))
    have announced := (marked.append (balanced_keyword keyword)).append hg'.balanced
    exact (announced.append bounds.balanced).append ha.balanced
theorem DerivesBounds.balanced {cs : List Char} {ts : List TypeRef} :
    DerivesBounds cs ts → Balanced cs
  | .last type => type.balanced
  | .more type hb ha others => by
    have separator := ha.balanced.cons (c := '&') (by decide) (by decide)
    exact ((type.balanced.append hb.balanced).append separator).append others.balanced
end

end SourceModel.TypeExpr
