namespace SourceModel

/-- Keys with values, the keys without repetition in the order in which they first arrived. -/
structure OrderedMap (κ α : Type) where
  entries : List (κ × α)
  nodup : (entries.map Prod.fst).Nodup

namespace OrderedMap

variable {κ α : Type}

def empty : OrderedMap κ α := ⟨[], List.nodup_nil⟩

instance : Inhabited (OrderedMap κ α) := ⟨empty⟩

instance : EmptyCollection (OrderedMap κ α) := ⟨empty⟩

@[ext] theorem ext {m n : OrderedMap κ α} (h : m.entries = n.entries) : m = n := by
  cases m; cases n; simp_all

def keys (m : OrderedMap κ α) : List κ := m.entries.map Prod.fst

def size (m : OrderedMap κ α) : Nat := m.entries.length

def putEntry [DecidableEq κ] (key : κ) (value : α) : List (κ × α) → List (κ × α)
  | [] => [(key, value)]
  | entry :: rest =>
    if entry.1 = key then (entry.1, value) :: rest else entry :: putEntry key value rest

theorem keys_putEntry [DecidableEq κ] (key : κ) (value : α) (entries : List (κ × α)) :
    (putEntry key value entries).map Prod.fst =
      if key ∈ entries.map Prod.fst then entries.map Prod.fst
      else entries.map Prod.fst ++ [key] := by
  induction entries with
  | nil => simp [putEntry]
  | cons entry rest ih =>
    unfold putEntry
    by_cases h : entry.1 = key
    · simp [h]
    · rw [if_neg h, List.map_cons, ih, List.map_cons]
      by_cases mem : key ∈ rest.map Prod.fst
      · simp [mem]
      · simp [mem, Ne.symm h]

def insert [DecidableEq κ] (m : OrderedMap κ α) (key : κ) (value : α) : OrderedMap κ α :=
  ⟨putEntry key value m.entries, by
    rw [keys_putEntry]
    split
    · exact m.nodup
    · rename_i h
      rw [List.nodup_append]
      refine ⟨m.nodup, by simp, ?_⟩
      rintro x hx y hy rfl
      exact h (by simp_all)⟩

def get? [DecidableEq κ] (m : OrderedMap κ α) (key : κ) : Option α :=
  (m.entries.find? fun entry => entry.1 = key).map Prod.snd

def contains [DecidableEq κ] (m : OrderedMap κ α) (key : κ) : Bool := (m.get? key).isSome

def insertAll [DecidableEq κ] (m : OrderedMap κ α) (entries : List (κ × α)) : OrderedMap κ α :=
  entries.foldl (fun acc entry => acc.insert entry.1 entry.2) m

@[simp] theorem keys_empty : (empty : OrderedMap κ α).keys = [] := rfl

theorem keys_insert [DecidableEq κ] (m : OrderedMap κ α) (key : κ) (value : α) :
    (m.insert key value).keys = if key ∈ m.keys then m.keys else m.keys ++ [key] :=
  keys_putEntry key value m.entries

theorem find?_putEntry [DecidableEq κ] (key other : κ) (value : α) (entries : List (κ × α)) :
    ((putEntry key value entries).find? fun entry => entry.1 = other).map Prod.snd =
      if key = other then some value
      else (entries.find? fun entry => entry.1 = other).map Prod.snd := by
  induction entries with
  | nil => by_cases h : key = other <;> simp [putEntry, h]
  | cons entry rest ih =>
    unfold putEntry
    by_cases h : entry.1 = key
    · rw [if_pos h]
      by_cases hk : key = other
      · simp [h, hk]
      · simp [h, hk]
    · rw [if_neg h]
      by_cases ho : entry.1 = other
      · have hk : ¬key = other := fun e => h (ho.trans e.symm)
        simp [ho, hk]
      · simpa [ho] using ih

theorem get?_insert [DecidableEq κ] (m : OrderedMap κ α) (key other : κ) (value : α) :
    (m.insert key value).get? other = if key = other then some value else m.get? other :=
  find?_putEntry key other value m.entries

theorem get?_insertAll [DecidableEq κ] (m later : OrderedMap κ α) (key : κ) :
    (m.insertAll later.entries).get? key = (later.get? key).or (m.get? key) := by
  obtain ⟨entries, nodup⟩ := later
  induction entries generalizing m with
  | nil => rfl
  | cons entry rest ih =>
    rw [List.map_cons, List.nodup_cons] at nodup
    have merged := ih (m.insert entry.1 entry.2) nodup.2
    simp only [insertAll, List.foldl_cons] at merged ⊢
    rw [merged, get?_insert]
    by_cases own : entry.1 = key
    · have absent : rest.find? (fun other => other.1 = key) = none := by
        rw [List.find?_eq_none]
        intro other mem same
        apply nodup.1
        rw [own, ← of_decide_eq_true same]
        exact List.mem_map_of_mem mem
      simp [get?, own, absent]
    · simp [get?, own]

theorem get?_of_mem [DecidableEq κ] {m : OrderedMap κ α} {entry : κ × α}
    (mem : entry ∈ m.entries) : m.get? entry.1 = some entry.2 := by
  obtain ⟨entries, nodup⟩ := m
  induction entries with
  | nil => cases mem
  | cons first rest ih =>
    rw [List.map_cons, List.nodup_cons] at nodup
    rcases List.mem_cons.mp mem with rfl | behind
    · simp [get?]
    · have later := ih nodup.2 behind
      have apart : first.1 ≠ entry.1 := by
        intro same
        exact nodup.1 (same ▸ List.mem_map_of_mem behind)
      simpa [get?, apart] using later

theorem eq_of_get? [DecidableEq κ] {m n : OrderedMap κ α} (keys : m.keys = n.keys)
    (values : ∀ key, m.get? key = n.get? key) : m = n := by
  have read (o : OrderedMap κ α) :
      o.entries.map some = o.keys.map fun key => (o.get? key).map fun value => (key, value) := by
    rw [OrderedMap.keys, List.map_map]
    apply List.map_congr_left
    intro entry mem
    simp [get?_of_mem mem]
  have same : m.entries.map some = n.entries.map some := by
    rw [read m, read n, keys]
    simp only [values]
  exact ext (List.map_inj_right (fun _ _ => Option.some.inj) |>.mp same)

theorem keys_insertAll [DecidableEq κ] (m later : OrderedMap κ α) :
    (m.insertAll later.entries).keys = m.keys ++ later.keys.filter (· ∉ m.keys) := by
  obtain ⟨entries, nodup⟩ := later
  change _ = m.keys ++ (entries.map Prod.fst).filter (· ∉ m.keys)
  induction entries generalizing m with
  | nil => simp [insertAll]
  | cons entry rest ih =>
    rw [List.map_cons, List.nodup_cons] at nodup
    have merged : (m.insertAll (entry :: rest)).keys = _ := ih (m.insert entry.1 entry.2) nodup.2
    rw [merged, keys_insert, List.map_cons, List.filter_cons]
    by_cases present : entry.1 ∈ m.keys
    · simp [present]
    · have apart : ∀ key ∈ rest.map Prod.fst, key ≠ entry.1 := by
        rintro key mem rfl
        exact nodup.1 mem
      have others : (rest.map Prod.fst).filter (· ∉ m.keys ++ [entry.1]) =
          (rest.map Prod.fst).filter (· ∉ m.keys) := by
        apply List.filter_congr
        intro key mem
        simp [apart key mem]
      rw [if_neg present, others]
      simp [present]

theorem insertAll_assoc [DecidableEq κ] (m n o : OrderedMap κ α) :
    (m.insertAll n.entries).insertAll o.entries =
      m.insertAll (n.insertAll o.entries).entries := by
  apply eq_of_get?
  · have twice : o.keys.filter (· ∉ m.keys ++ n.keys.filter (· ∉ m.keys)) =
        (o.keys.filter (· ∉ n.keys)).filter (· ∉ m.keys) := by
      rw [List.filter_filter]
      apply List.filter_congr
      intro key _
      by_cases present : key ∈ m.keys <;> simp [present]
    simp only [keys_insertAll, twice, List.filter_append, List.append_assoc]
  · intro key
    rw [get?_insertAll, get?_insertAll, get?_insertAll, get?_insertAll, Option.or_assoc]

theorem insertAll_self [DecidableEq κ] (m : OrderedMap κ α) : m.insertAll m.entries = m := by
  apply eq_of_get?
  · rw [keys_insertAll]
    simp
  · intro key
    rw [get?_insertAll, Option.or_self]

end OrderedMap

end SourceModel
