namespace SourceModel.Text

def splitAll (separator : Char) : List Char → List (List Char)
  | [] => [[]]
  | c :: rest =>
    if c = separator then [] :: splitAll separator rest
    else match splitAll separator rest with
      | [] => [[c]]
      | piece :: pieces => (c :: piece) :: pieces

def splitLast? (separator : Char) : List Char → Option (List Char × List Char)
  | [] => none
  | c :: rest =>
    match splitLast? separator rest with
    | some (before, after) => some (c :: before, after)
    | none => if c = separator then some ([], rest) else none

theorem splitAll_ne_nil (separator : Char) (cs : List Char) : splitAll separator cs ≠ [] := by
  cases cs with
  | nil => simp [splitAll]
  | cons c rest =>
    unfold splitAll
    split
    · simp
    · split <;> simp

theorem intercalate_splitAll (separator : Char) (cs : List Char) :
    [separator].intercalate (splitAll separator cs) = cs := by
  induction cs with
  | nil => rfl
  | cons c rest ih =>
    unfold splitAll
    split
    · rename_i h
      cases pieces : splitAll separator rest with
      | nil => exact absurd pieces (splitAll_ne_nil _ _)
      | cons piece others => rw [pieces] at ih; simp_all [List.intercalate]
    · cases pieces : splitAll separator rest with
      | nil => exact absurd pieces (splitAll_ne_nil _ _)
      | cons piece others =>
        rw [pieces] at ih
        cases others <;> simp_all [List.intercalate]

theorem splitAll_append (separator : Char) (before after : List Char) :
    splitAll separator (before ++ [separator] ++ after) =
      splitAll separator before ++ splitAll separator after := by
  induction before with
  | nil => simp [splitAll]
  | cons c rest ih =>
    simp only [List.cons_append, splitAll]
    split
    · rw [ih, List.cons_append]
    · rw [ih]
      cases pieces : splitAll separator rest with
      | nil => exact absurd pieces (splitAll_ne_nil _ _)
      | cons piece others => rfl

theorem splitLast?_eq_none_iff {separator : Char} {cs : List Char} :
    splitLast? separator cs = none ↔ separator ∉ cs := by
  induction cs with
  | nil => simp [splitLast?]
  | cons c rest ih =>
    rw [List.mem_cons, not_or, ← ih, splitLast?]
    cases splitLast? separator rest with
    | none => simp [eq_comm]
    | some parts => simp

theorem eq_of_splitLast? {separator : Char} {cs before after : List Char}
    (h : splitLast? separator cs = some (before, after)) :
    cs = before ++ separator :: after ∧ separator ∉ after := by
  induction cs generalizing before after with
  | nil => simp [splitLast?] at h
  | cons c rest ih =>
    unfold splitLast? at h
    split at h
    · rename_i b a hs
      obtain ⟨rfl, rfl⟩ := by simpa using h
      obtain ⟨rfl, free⟩ := ih hs
      exact ⟨rfl, free⟩
    · rename_i hs
      split at h
      · rename_i hc
        obtain ⟨rfl, rfl⟩ := by simpa using h
        exact ⟨by simp [hc], splitLast?_eq_none_iff.mp hs⟩
      · simp at h

end SourceModel.Text
