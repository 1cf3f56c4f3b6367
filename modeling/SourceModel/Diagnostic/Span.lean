namespace SourceModel

structure Span where
  start : Nat
  stop : Nat
  start_le_stop : start ≤ stop

namespace Span

@[ext] theorem ext {s t : Span} (hs : s.start = t.start) (ht : s.stop = t.stop) : s = t := by
  cases s; cases t; simp_all

instance : DecidableEq Span := fun s t =>
  decidable_of_iff (s.start = t.start ∧ s.stop = t.stop)
    ⟨fun h => ext h.1 h.2, fun h => h ▸ ⟨rfl, rfl⟩⟩

def between (start stop : Nat) : Span := ⟨start, max stop start, Nat.le_max_right _ _⟩

def length (span : Span) : Nat := span.stop - span.start

def isEmpty (span : Span) : Bool := span.start == span.stop

def union (s t : Span) : Span := between (min s.start t.start) (max s.stop t.stop)

def unionAll? : List Span → Option Span
  | [] => none
  | span :: rest => some (rest.foldl union span)

theorem start_union (s t : Span) : (s.union t).start = min s.start t.start := rfl

theorem stop_union (s t : Span) : (s.union t).stop = max s.stop t.stop := by
  have hs := s.start_le_stop
  have ht := t.start_le_stop
  simp only [union, between]
  omega

end Span

end SourceModel
