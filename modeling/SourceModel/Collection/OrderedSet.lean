namespace SourceModel

/-- Elements without repetition, in the order in which they first arrived. -/
structure OrderedSet (α : Type) where
  toList : List α
  nodup : toList.Nodup

namespace OrderedSet

variable {α : Type}

def empty : OrderedSet α := ⟨[], List.nodup_nil⟩

instance : Inhabited (OrderedSet α) := ⟨empty⟩

instance : EmptyCollection (OrderedSet α) := ⟨empty⟩

@[ext] theorem ext {s t : OrderedSet α} (h : s.toList = t.toList) : s = t := by
  cases s; cases t; simp_all

instance [DecidableEq α] : DecidableEq (OrderedSet α) := fun s t =>
  decidable_of_iff (s.toList = t.toList) ⟨ext, fun h => h ▸ rfl⟩

def contains [DecidableEq α] (s : OrderedSet α) (a : α) : Bool := decide (a ∈ s.toList)

def insert [DecidableEq α] (s : OrderedSet α) (a : α) : OrderedSet α :=
  if h : a ∈ s.toList then s
  else ⟨s.toList ++ [a], by
    rw [List.nodup_append]
    refine ⟨s.nodup, by simp, ?_⟩
    rintro x hx y hy rfl
    exact h (by simp_all)⟩

def insertAll [DecidableEq α] (s : OrderedSet α) (as : List α) : OrderedSet α :=
  as.foldl insert s

def ofList [DecidableEq α] (as : List α) : OrderedSet α := empty.insertAll as

def size (s : OrderedSet α) : Nat := s.toList.length

@[simp] theorem toList_empty : (empty : OrderedSet α).toList = [] := rfl

theorem toList_insert [DecidableEq α] (s : OrderedSet α) (a : α) :
    (s.insert a).toList = if a ∈ s.toList then s.toList else s.toList ++ [a] := by
  unfold insert
  split <;> simp_all

theorem mem_toList_insert [DecidableEq α] (s : OrderedSet α) (a b : α) :
    b ∈ (s.insert a).toList ↔ b ∈ s.toList ∨ b = a := by
  rw [toList_insert]
  split
  · rename_i h
    exact ⟨Or.inl, fun h' => h'.elim id fun e => e ▸ h⟩
  · simp

theorem mem_toList_insertAll [DecidableEq α] (s : OrderedSet α) (as : List α) (b : α) :
    b ∈ (s.insertAll as).toList ↔ b ∈ s.toList ∨ b ∈ as := by
  induction as generalizing s with
  | nil => simp [insertAll]
  | cons a rest ih =>
    have step := ih (s.insert a)
    simp only [insertAll, List.foldl_cons] at step ⊢
    rw [step, mem_toList_insert]
    simp [or_assoc]

theorem mem_toList_ofList [DecidableEq α] (as : List α) (b : α) :
    b ∈ (ofList as).toList ↔ b ∈ as := by
  simp [ofList, mem_toList_insertAll]

theorem toList_insertAll [DecidableEq α] (s : OrderedSet α) (as : List α) :
    (s.insertAll as).toList = s.toList ++ (as.removeAll s.toList).eraseDups := by
  induction as generalizing s with
  | nil => simp [insertAll, List.removeAll]
  | cons a rest ih =>
    have step := ih (s.insert a)
    simp only [insertAll, List.foldl_cons] at step ⊢
    rw [step, toList_insert]
    by_cases present : a ∈ s.toList
    · simp [List.removeAll, present]
    · simp [List.removeAll, present, List.eraseDups_cons, List.filter_filter, Bool.and_comm]
      rfl

theorem toList_ofList [DecidableEq α] (as : List α) : (ofList as).toList = as.eraseDups := by
  rw [ofList, toList_insertAll, toList_empty, List.nil_append, List.removeAll]
  exact congrArg List.eraseDups (List.filter_eq_self.mpr fun _ _ => rfl)

end OrderedSet

end SourceModel
