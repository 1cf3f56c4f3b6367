import SourceModel.Proofs.TypeExpr.LongestExpression

namespace SourceModel.TypeExpr
open Text

def isSeparator (c : Char) : Bool := c == ',' || c == '&' || c == '.'

/-- The separator in which the text ends, with the spacing behind it, if it ends in one. -/
def dangling : List Char → List Char
  | [] => []
  | c :: rest => if isSeparator c && rest.all isSpacing then c :: rest else dangling rest

section

variable {c : Char} {cs gap : List Char}

theorem all_isSpacing_iff : cs.all isSpacing = true ↔ IsSpacing cs := List.all_eq_true

theorem dangling_cons_separator (separator : isSeparator c = true) (hg : IsSpacing gap) :
    dangling (c :: gap) = c :: gap := by
  rw [dangling, separator, all_isSpacing_iff.mpr hg]
  rfl

theorem dangling_cons_of_not (different : ¬ (isSeparator c = true ∧ IsSpacing cs)) :
    dangling (c :: cs) = dangling cs := by
  rw [← all_isSpacing_iff, ← Bool.and_eq_true] at different
  rw [dangling, if_neg different]

theorem dangling_append (front : List Char) (visible : ¬ IsSpacing cs) :
    dangling (front ++ cs) = dangling cs := by
  induction front with
  | nil => rfl
  | cons d front ih =>
    have different : ¬ (isSeparator d = true ∧ IsSpacing (front ++ cs)) := fun separated =>
      visible fun e mem => separated.2 e (List.mem_append_right _ mem)
    rw [List.cons_append, dangling_cons_of_not different, ih]

theorem not_isSpacing_cons (visible : isSpacing c = false) (cs : List Char) :
    ¬ IsSpacing (c :: cs) := by
  intro spacing
  rw [spacing c List.mem_cons_self] at visible
  cases visible

theorem dangling_behind (front : List Char) (visible : isSpacing c = false)
    (other : isSeparator c = false) (cs : List Char) :
    dangling (front ++ c :: cs) = dangling cs := by
  rw [dangling_append front (not_isSpacing_cons visible cs)]
  exact dangling_cons_of_not fun separated => by simp [other] at separated

theorem isSpacing_of_isSeparator (separator : isSeparator c = true) : isSpacing c = false := by
  simp only [isSeparator, Bool.or_eq_true, beq_iff_eq] at separator
  rcases separator with (rfl | rfl) | rfl <;> rfl

theorem dangling_separator (front : List Char) (separator : isSeparator c = true)
    (hg : IsSpacing gap) : dangling (front ++ c :: gap) = c :: gap := by
  rw [dangling_append front (not_isSpacing_cons (isSpacing_of_isSeparator separator) gap),
    dangling_cons_separator separator hg]

theorem dangling_eq_nil_of_forall (plain : ∀ c ∈ cs, isSeparator c = false) : dangling cs = [] := by
  induction cs with
  | nil => rfl
  | cons c cs ih =>
    obtain ⟨first, others⟩ := List.forall_mem_cons.mp plain
    rw [dangling_cons_of_not fun separated => by simp [first] at separated, ih others]

theorem dangling_append_eq_nil {front tail : List Char} (complete : dangling front = [])
    (plain : ∀ c ∈ tail, isSeparator c = false) : dangling (front ++ tail) = [] := by
  induction front with
  | nil => exact dangling_eq_nil_of_forall plain
  | cons c front ih =>
    have different : ¬ (isSeparator c = true ∧ IsSpacing front) := by
      rintro ⟨separator, spacing⟩
      rw [dangling_cons_separator separator spacing] at complete
      cases complete
    rw [dangling_cons_of_not different] at complete
    have longer : ¬ (isSeparator c = true ∧ IsSpacing (front ++ tail)) := fun separated =>
      different ⟨separated.1, fun d mem => separated.2 d (List.mem_append_left _ mem)⟩
    rw [List.cons_append, dangling_cons_of_not longer, ih complete]

theorem isSeparator_of_isSpacing (spacing : isSpacing c = true) : isSeparator c = false := by
  cases separator : isSeparator c with
  | false => rfl
  | true => rw [isSpacing_of_isSeparator separator] at spacing; cases spacing

theorem IsSpacing.not_separator (hg : IsSpacing gap) : ∀ c ∈ gap, isSeparator c = false :=
  fun c mem => isSeparator_of_isSpacing (hg c mem)

theorem IsSpacing.dangling (hg : IsSpacing gap) : dangling gap = [] :=
  dangling_eq_nil_of_forall hg.not_separator

theorem dangling_cases (cs : List Char) :
    dangling cs = [] ∨
      ∃ front c gap, cs = front ++ c :: gap ∧ isSeparator c = true ∧ IsSpacing gap ∧
        dangling cs = c :: gap := by
  induction cs with
  | nil => exact .inl rfl
  | cons c cs ih =>
    by_cases separated : isSeparator c = true ∧ IsSpacing cs
    · exact .inr ⟨[], c, cs, rfl, separated.1, separated.2,
        dangling_cons_separator separated.1 separated.2⟩
    · rw [dangling_cons_of_not separated]
      rcases ih with complete | ⟨front, d, gap, rfl, separator, hg, eq⟩
      · exact .inl complete
      · exact .inr ⟨c :: front, d, gap, rfl, separator, hg, eq⟩

end

/-- The cut between the two texts does not run through a name or a keyword. -/
def BetweenTokens (before after : List Char) : Prop :=
  ¬ (before.getLast?.any isNamePart = true ∧ after.head?.any isNamePart = true)

instance (before after : List Char) : Decidable (BetweenTokens before after) :=
  inferInstanceAs (Decidable (¬ (_ ∧ _)))

namespace BetweenTokens

variable {front cs after more : List Char}

theorem of_front (between : BetweenTokens cs (after ++ more)) : BetweenTokens cs after := by
  rintro ⟨last, first⟩
  refine between ⟨last, ?_⟩
  cases after with
  | nil => cases first
  | cons d after => exact first

theorem of_behind (between : BetweenTokens (front ++ cs) after) : BetweenTokens cs after := by
  rintro ⟨last, first⟩
  refine between ⟨?_, first⟩
  rcases List.eq_nil_or_concat' cs with rfl | ⟨cs, c, rfl⟩
  · cases last
  · rw [← List.append_assoc, List.getLast?_concat]
    rwa [List.getLast?_concat] at last

theorem of_behind_cons {c : Char} (between : BetweenTokens (front ++ c :: cs) after) :
    BetweenTokens cs after := by
  rw [List.append_cons] at between
  exact between.of_behind

theorem eq_nil (between : BetweenTokens cs after) (parts : ∀ c ∈ cs ++ after, isNamePart c = true) :
    cs = [] ∨ after = [] := by
  rcases List.eq_nil_or_concat' cs with rfl | ⟨front, c, rfl⟩
  · exact .inl rfl
  · cases after with
    | nil => exact .inr rfl
    | cons d after =>
      refine absurd ⟨?_, ?_⟩ between
      · rw [List.getLast?_concat]
        exact parts c (by simp)
      · exact parts d (by simp)

end BetweenTokens

theorem cut_append {first second cs after : List Char} (whole : first ++ second = cs ++ after) :
    (∃ others, first = cs ++ others ∧ after = others ++ second) ∨
      ∃ front, cs = first ++ front ∧ second = front ++ after := by
  rcases List.append_eq_append_iff.mp whole with ⟨front, rfl, rfl⟩ | ⟨others, rfl, rfl⟩
  · exact .inr ⟨front, rfl, rfl⟩
  · exact .inl ⟨others, rfl, rfl⟩

theorem cut_cons {c : Char} {first second cs after : List Char}
    (whole : first ++ c :: second = cs ++ after) :
    (∃ others, first = cs ++ others ∧ after = others ++ c :: second) ∨
      ∃ front, cs = first ++ c :: front ∧ second = front ++ after := by
  rcases cut_append whole with before | ⟨front, rfl, split⟩
  · exact .inl before
  · rcases List.cons_eq_append_iff.mp split with ⟨rfl, rfl⟩ | ⟨front, rfl, rfl⟩
    · exact .inl ⟨[], by simp, rfl⟩
    · exact .inr ⟨front, rfl, rfl⟩

theorem exists_cons_of_cut {P : Char → Prop} {whole cs after : List Char}
    (h : ∃ c tail, whole = c :: tail ∧ P c) (split : whole = cs ++ after) (some : cs ≠ []) :
    ∃ c tail, cs = c :: tail ∧ P c := by
  obtain ⟨c, tail, rfl, start⟩ := h
  cases cs with
  | nil => exact absurd rfl some
  | cons d cs =>
    obtain ⟨rfl, -⟩ := List.cons.inj split
    exact ⟨c, cs, rfl, start⟩

theorem IsSpacing.of_append {cs after : List Char} (h : IsSpacing (cs ++ after)) : IsSpacing cs :=
  fun c mem => h c (List.mem_append_left _ mem)

theorem isSpacing_of_isNamePart {c : Char} (part : isNamePart c = true) : isSpacing c = false := by
  cases spacing : isSpacing c with
  | false => rfl
  | true => rw [isNamePart_of_isSpacing spacing] at part; cases part

theorem isSeparator_of_isNamePart {c : Char} (part : isNamePart c = true) :
    isSeparator c = false := by
  cases separator : isSeparator c with
  | false => rfl
  | true =>
    simp only [isSeparator, Bool.or_eq_true, beq_iff_eq] at separator
    rcases separator with (rfl | rfl) | rfl <;> exact absurd part (by decide)

theorem IsIdentifier.isNamePart {cs : List Char} (h : IsIdentifier cs) :
    ∀ c ∈ cs, isNamePart c = true := by
  obtain ⟨start, parts⟩ := h
  exact List.forall_mem_cons.mpr ⟨isNamePart_of_isNameStart start, parts⟩

theorem IsName.exists_concat {name : List Char} (h : IsName name) :
    ∃ front c, name = front ++ [c] ∧ isNamePart c = true := by
  induction h with
  | @identifier cs first =>
    have some : cs ≠ [] := by
      obtain ⟨-, -⟩ := first
      exact List.cons_ne_nil _ _
    exact ⟨cs.dropLast, cs.getLast some, (List.dropLast_append_getLast some).symm,
      first.isNamePart _ (List.getLast_mem some)⟩
  | @qualified cs rest first others ih =>
    obtain ⟨front, c, rfl, part⟩ := ih
    exact ⟨cs ++ '.' :: front, c, by simp, part⟩

theorem IsName.dangling {name : List Char} (h : IsName name) : dangling name = [] := by
  obtain ⟨front, c, rfl, part⟩ := h.exists_concat
  exact dangling_behind front (isSpacing_of_isNamePart part) (isSeparator_of_isNamePart part) []

theorem IsName.cut {name cs after : List Char} (h : IsName name) (whole : name = cs ++ after)
    (between : BetweenTokens cs after) :
    cs = [] ∨ IsName cs ∨ ∃ front, IsName front ∧ cs = front ++ ['.'] := by
  induction h generalizing cs with
  | identifier first =>
    subst whole
    rcases between.eq_nil first.isNamePart with rfl | rfl
    · exact .inl rfl
    · rw [List.append_nil] at first
      exact .inr (.inl (.identifier first))
  | @qualified first rest identifier others ih =>
    rcases cut_cons whole with ⟨behind, rfl, rfl⟩ | ⟨front, rfl, rfl⟩
    · rcases between.of_front.eq_nil identifier.isNamePart with rfl | rfl
      · exact .inl rfl
      · rw [List.append_nil] at identifier
        exact .inr (.inl (.identifier identifier))
    · rcases ih rfl between.of_behind_cons with rfl | name | ⟨front, name, rfl⟩
      · exact .inr (.inr ⟨first, .identifier identifier, rfl⟩)
      · exact .inr (.inl (.qualified identifier name))
      · exact .inr (.inr ⟨first ++ '.' :: front, .qualified identifier name, by simp⟩)

theorem stopsAt_spacing {gap : List Char} (hg : IsSpacing gap) (stops : List Char) :
    StopsAt stops gap := by
  have ends := (stopsAt_nil stops).append hg
  rwa [List.append_nil] at ends

theorem StopsAt.of_append {stops cs after : List Char} (h : StopsAt stops (cs ++ after)) :
    StopsAt stops cs := by
  obtain ⟨gap, split, hg⟩ := exists_spacing cs
  cases skipped : skipSpacing cs with
  | nil =>
    intro c mem
    rw [skipped] at mem
    cases mem
  | cons d tail =>
    rw [skipped] at split
    rw [split, List.append_assoc, StopsAt, skipSpacing_append hg, List.cons_append,
      skipSpacing_cons (isSpacing_of_skipSpacing skipped)] at h
    intro c mem
    rw [skipped] at mem
    exact h c mem

theorem IsDimensions.not_separator {cs : List Char} {n : Nat} (h : IsDimensions cs n) :
    ∀ c ∈ cs, isSeparator c = false := by
  induction h with
  | none => simp
  | pair hb hw _ ih =>
    rw [List.forall_mem_append, List.forall_mem_append, List.forall_mem_cons, List.forall_mem_cons]
    exact ⟨⟨hb.not_separator, rfl, hw.not_separator⟩, rfl, ih⟩

theorem DerivesType.dangling {cs : List Char} {t : TypeRef} (h : DerivesType cs t) :
    dangling cs = [] := by
  cases h with
  | plain hn hd => exact dangling_append_eq_nil hn.dangling hd.not_separator
  | @generic name gap inner brackets gs n hn hg arguments hd =>
    rw [dangling_behind (name ++ gap ++ '<' :: inner) (c := '>') rfl rfl]
    exact dangling_eq_nil_of_forall hd.not_separator

theorem DerivesBounds.dangling {cs : List Char} {ts : List TypeRef} (h : DerivesBounds cs ts) :
    dangling cs = [] := by
  induction ts generalizing cs with
  | nil => cases h
  | cons t ts ih =>
    cases h with
    | last type => exact type.dangling
    | more type hb ha others =>
      obtain ⟨c, tail, rfl, start⟩ := others.exists_cons
      rw [dangling_append _ (not_isSpacing_cons (isSpacing_of_isNameStart start) tail)]
      exact ih others

end SourceModel.TypeExpr
