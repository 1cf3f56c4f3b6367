import SourceModel.Proofs.TypeExpr.Angles

namespace SourceModel.TypeExpr
open Text

/-- The failure lies behind some of the characters. A list that it leaves open starts among them,
and all brackets that were opened in the list are closed. -/
def Failure.Within (failure : Failure) (cs : List Char) : Prop :=
  ∃ taken, cs = taken ++ failure.remaining ∧
    ∀ opening, failure.expected = .listEnd opening →
      ∃ before inner, taken = before ++ '<' :: inner ∧
        opening = '<' :: inner ++ failure.remaining ∧ Balanced inner

namespace Failure.Within

theorem of_suffix (taken : List Char) {failure : Failure}
    (outside : ∀ opening, failure.expected ≠ .listEnd opening) :
    failure.Within (taken ++ failure.remaining) :=
  ⟨taken, rfl, fun opening expected => absurd expected (outside opening)⟩

theorem append {failure : Failure} {cs : List Char} (within : failure.Within cs)
    (front : List Char) : failure.Within (front ++ cs) := by
  obtain ⟨taken, rfl, opened⟩ := within
  refine ⟨front ++ taken, by rw [List.append_assoc], fun opening expected => ?_⟩
  obtain ⟨before, inner, rfl, same, balanced⟩ := opened opening expected
  exact ⟨front ++ before, inner, by rw [List.append_assoc], same, balanced⟩

end Failure.Within

def FailsWithin {α : Type} (reader : Reader α) : Prop :=
  ∀ cs failure, reader cs = .failed failure → failure.Within cs

section Lists

variable {α : Type} {separator : List Char → Option (List Char)} {item : Reader α}
  {derives : List Char → α → Prop}

theorem failsWithin_readMore
    (hseparator : ∀ cs behind, separator cs = some behind → ∃ gap, cs = gap ++ behind)
    (takes : Sound item derives) (hitem : FailsWithin item) (count : Nat) :
    FailsWithin (readMore separator item count) := by
  induction count with
  | zero =>
    intro cs failure h
    cases h
  | succ count ih =>
    intro cs failure h
    simp only [readMore] at h
    split at h
    · cases h
    · rename_i behind separated
      obtain ⟨gap, rfl⟩ := hseparator _ _ separated
      split at h
      · cases h
      · rename_i failed
        obtain rfl := Reading.failed.inj h
        exact (hitem _ _ failed).append gap
      · rename_i value rest taken
        obtain ⟨text, rfl, -⟩ := takes _ _ _ taken
        exact ((ih _ _ (Reading.map_eq_failed.mp h)).append text).append gap

theorem failsWithin_readList
    (hseparator : ∀ cs behind, separator cs = some behind → ∃ gap, cs = gap ++ behind)
    (takes : Sound item derives) (hitem : FailsWithin item) :
    FailsWithin (readList separator item) := by
  intro cs failure h
  rcases Reading.andThen_eq_failed.mp h with failed | ⟨value, rest, taken, more⟩
  · exact hitem _ _ failed
  · obtain ⟨text, rfl, -⟩ := takes _ _ _ taken
    have others := failsWithin_readMore hseparator takes hitem rest.length
    exact (others _ _ (Reading.map_eq_failed.mp more)).append text

end Lists

section Types

variable {type : Reader TypeRef}

theorem failsWithin_readBounds (takes : Sound type DerivesType) (htype : FailsWithin type) :
    FailsWithin (readBounds type) := by
  intro cs failure h
  unfold readBounds at h
  split at h
  · obtain rfl := Reading.failed.inj h
    exact .of_suffix [] (by simp)
  · rename_i rest spaced
    obtain ⟨gap, rfl, -, -⟩ := sound_readSpacing? spaced
    obtain ⟨inner, failed, rfl⟩ := Reading.amongBounds_eq_failed.mp h
    rcases Reading.orFail_eq_failed.mp failed with failed | ⟨-, rfl⟩
    · have list : FailsWithin (readList readAmpersand? type) := by
        refine failsWithin_readList (fun cs behind separated => ?_) takes htype
        obtain ⟨gap, same, -⟩ := sound_readAmpersand? separated
        exact ⟨gap, same⟩
      exact (list _ _ failed).append gap
    · exact .of_suffix gap (by simp)

theorem failsWithin_readWildcard (takes : Sound type DerivesType) (htype : FailsWithin type) :
    FailsWithin (readWildcard type) := by
  intro cs failure h
  unfold readWildcard at h
  split at h
  · rename_i rest
    split at h
    · cases h
    · rename_i keyword behind announced
      obtain ⟨gap, rfl, -, -⟩ := sound_readBoundKeyword? announced
      have bounds := failsWithin_readBounds takes htype _ _ (Reading.map_eq_failed.mp h)
      exact ((bounds.append keyword.name.toList).append gap).append ['?']
  · cases h

theorem failsWithin_readArgument (takes : Sound type DerivesType) (htype : FailsWithin type) :
    FailsWithin (readArgument type) := by
  intro cs failure h
  unfold readArgument at h
  split at h
  · exact htype _ _ (Reading.map_eq_failed.mp h)
  · exact failsWithin_readWildcard takes htype _ _ h

theorem failsWithin_readSpacedArgument (takes : Sound type DerivesType)
    (htype : FailsWithin type) : FailsWithin (readSpacedArgument type) := by
  intro cs failure h
  rcases Reading.andThen_eq_failed.mp h with failed | ⟨generic, rest, -, done⟩
  · obtain ⟨gap, split, -⟩ := exists_spacing cs
    rw [split]
    exact (failsWithin_readArgument takes htype _ _ failed).append gap
  · cases done

theorem failsWithin_readArguments (takes : Sound type DerivesType) (htype : FailsWithin type) :
    FailsWithin (readArguments type) := by
  intro cs failure h
  unfold readArguments at h
  split at h
  · rename_i opened skipped
    obtain ⟨gap, split, -⟩ := exists_spacing cs
    rw [skipped] at split
    suffices failure.Within ('<' :: opened) by
      rw [split]
      exact this.append gap
    rcases Reading.andThen_eq_failed.mp h with failed | ⟨generics, remaining, read, ended⟩
    · rcases Reading.orFail_eq_failed.mp failed with failed | ⟨-, rfl⟩
      · have list : FailsWithin (readList readComma? (readSpacedArgument type)) := by
          refine failsWithin_readList (fun cs behind separated => ?_)
            (sound_readSpacedArgument takes) (failsWithin_readSpacedArgument takes htype)
          obtain ⟨gap, same, -⟩ := sound_readComma? separated
          exact ⟨gap, same⟩
        exact (list _ _ failed).append ['<']
      · obtain ⟨before, split, -⟩ := exists_spacing opened
        have within : Failure.Within ⟨.typeName, skipSpacing opened, false⟩
            (('<' :: before) ++ skipSpacing opened) := .of_suffix _ (by simp)
        rwa [List.cons_append, ← split] at within
    -- The list neither goes on nor ends here: its arguments are what stands behind the bracket.
    · obtain ⟨inner, rfl, derived⟩ := sound_arguments takes _ _ _ (Reading.orFail_eq_done.mp read)
      split at ended
      · cases ended
      · obtain rfl := Reading.failed.inj ended
        refine ⟨'<' :: inner, rfl, fun opening expected => ?_⟩
        obtain rfl := Expectation.listEnd.inj expected
        exact ⟨[], inner, rfl, rfl, derived.balanced⟩
  · cases h

theorem failsWithin_readDimensions (count : Nat) : FailsWithin (readDimensions count) := by
  induction count with
  | zero =>
    intro cs failure h
    cases h
  | succ count ih =>
    intro cs failure h
    simp only [readDimensions] at h
    split at h
    · rename_i opened skipped
      obtain ⟨before, split, -⟩ := exists_spacing cs
      obtain ⟨within, split', -⟩ := exists_spacing opened
      rw [split, skipped, split']
      split at h
      · rename_i behind closed
        rw [closed]
        have others := ih _ _ (Reading.map_eq_failed.mp h)
        exact (((others.append [']']).append within).append ['[']).append before
      · obtain rfl := Reading.failed.inj h
        have ended : Failure.Within ⟨.closingBracket, skipSpacing opened, false⟩
            (within ++ skipSpacing opened) := .of_suffix within (by simp)
        exact (ended.append ['[']).append before
    · cases h

theorem failsWithin_readTypeWith (takes : Sound type DerivesType) (htype : FailsWithin type) :
    FailsWithin (readTypeWith type) := by
  intro cs failure h
  unfold readTypeWith at h
  split at h
  · cases h
  · rename_i name rest named
    obtain ⟨rfl, -⟩ := sound_readName? named
    suffices failure.Within rest from this.append name
    rcases Reading.andThen_eq_failed.mp h with failed | ⟨generics, behind, read, brackets⟩
    · exact failsWithin_readArguments takes htype _ _ (Reading.orDefault_eq_failed.mp failed)
    · have dimensions := failsWithin_readDimensions _ _ _ (Reading.map_eq_failed.mp brackets)
      rcases Reading.orDefault_eq_done.mp read with read | ⟨-, -, rfl⟩
      · obtain ⟨text, rfl, -⟩ := sound_readArguments takes _ _ _ read
        exact dimensions.append text
      · exact dimensions

end Types

theorem failsWithin_readTypeWithin (depth : Nat) : FailsWithin (readTypeWithin depth) := by
  induction depth with
  | zero =>
    intro cs failure h
    cases h
  | succ depth ih => exact failsWithin_readTypeWith (sound_readTypeWithin depth) ih

theorem failsWithin_readType : FailsWithin readType := by
  intro cs failure h
  exact failsWithin_readTypeWithin (cs.length + 1) cs failure h

theorem failsWithin_readNamedParameter : FailsWithin readNamedParameter := by
  intro cs failure h
  unfold readNamedParameter at h
  split at h
  · cases h
  · rename_i name rest named
    obtain ⟨rfl, -⟩ := eq_of_readIdentifier? named
    split at h
    · cases h
    · split at h
      · rename_i behind announced
        obtain ⟨gap, rfl, -, -⟩ := sound_readBoundKeyword? announced
        have bounds := failsWithin_readBounds sound_readType failsWithin_readType _ _
          (Reading.map_eq_failed.mp h)
        exact ((bounds.append BoundKeyword.extend.name.toList).append gap).append name
      · cases h

theorem failsWithin_readParameter : FailsWithin readParameter := by
  intro cs failure h
  unfold readParameter at h
  split at h
  · split at h
    · exact failsWithin_readType _ _ (Reading.map_eq_failed.mp h)
    · exact failsWithin_readNamedParameter _ _ h
  · exact failsWithin_readWildcard sound_readType failsWithin_readType _ _ h

end SourceModel.TypeExpr
