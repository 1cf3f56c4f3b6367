import SourceModel.Proofs.VacantParts

/-!
# Joins

Gathering fragments from the left is associative, and nothing takes no part in it, so it does not
matter how the fragments are grouped (`Fragment.join_flatten`).
-/

namespace SourceModel

namespace Fragment

variable {separator : String}

def gather (separator : String) : Fragment → Fragment → Fragment
  | gathered, .absent => gathered
  | .absent, .present text => .present text
  | .present gathered, .present text => .present (gathered ++ separator ++ text)

theorem absent_gather (fragment : Fragment) : gather separator .absent fragment = fragment := by
  cases fragment <;> rfl

theorem gather_assoc (a b c : Fragment) :
    gather separator (gather separator a b) c = gather separator a (gather separator b c) := by
  cases a <;> cases b <;> cases c <;> simp [gather, String.append_assoc]

theorem join_cons (fragment : Fragment) (rest : List Fragment) :
    join separator (fragment :: rest) = gather separator fragment (join separator rest) := by
  cases fragment with
  | absent => rw [join_cons_absent, absent_gather]
  | present text =>
    rw [join_cons_present]
    cases join separator rest <;> rfl

theorem join_singleton (fragment : Fragment) : join separator [fragment] = fragment := by
  rw [join_cons]
  rfl

theorem join_append (before after : List Fragment) :
    join separator (before ++ after) =
      gather separator (join separator before) (join separator after) := by
  induction before with
  | nil => exact (absent_gather _).symm
  | cons fragment rest ih => rw [List.cons_append, join_cons, join_cons, ih, gather_assoc]

theorem foldl_gather (gathered : Fragment) (fragments : List Fragment) :
    fragments.foldl (gather separator) gathered =
      gather separator gathered (join separator fragments) := by
  induction fragments generalizing gathered with
  | nil => rfl
  | cons fragment rest ih => rw [List.foldl_cons, ih, join_cons, gather_assoc]

theorem join_eq_foldl (fragments : List Fragment) :
    join separator fragments = fragments.foldl (gather separator) .absent := by
  rw [foldl_gather, absent_gather]

theorem join_flatten (groups : List (List Fragment)) :
    join separator (groups.map (join separator)) = join separator groups.flatten := by
  induction groups with
  | nil => rfl
  | cons group rest ih => rw [List.map_cons, join_cons, ih, List.flatten_cons, join_append]

end Fragment

theorem Text.joinWith_eq_intercalate (separator : String) (texts : List String) :
    joinWith separator texts = separator.intercalate texts := by
  induction texts with
  | nil => rfl
  | cons text rest ih =>
    cases rest with
    | nil => rw [joinWith_singleton, String.intercalate_singleton]
    | cons next rest => rw [joinWith_cons_cons, ih, String.intercalate_cons_cons]

theorem Joiner.join_eq (joiner : Joiner) (fragments : List Fragment) :
    joiner.join fragments =
      if Fragment.texts fragments = [] then .absent
      else .present (joiner.opening ++
        joiner.separator.intercalate (Fragment.texts fragments) ++ joiner.closing) := by
  rw [Joiner.join, ← Text.joinWith_eq_intercalate]
  cases Fragment.texts fragments <;> simp

theorem Fragment.joinWrapped_eq (joiner : Joiner) (fragments : List Fragment) :
    joinWrapped joiner.separator joiner.opening joiner.closing fragments =
      joiner.join fragments := by
  rw [joinWrapped, join, Joiner.join_eq, Joiner.join_eq]
  split <;> simp [Fragment.map]

mutual
theorem Statement.written_eq_join : ∀ s : Statement,
    s.written = Fragment.join "" (s.leaves.map .present)
  | .simple _ => (Fragment.join_singleton _).symm
  | .composite children => Statement.join_writtenAll children
theorem Statement.join_writtenAll : ∀ ss : List Statement,
    Fragment.join "" (Statement.writtenAll ss) =
      Fragment.join "" ((Statement.leavesAll ss).map .present)
  | [] => rfl
  | s :: rest => by
    rw [Statement.writtenAll, Statement.leavesAll, List.map_append, Fragment.join_append,
      Fragment.join_cons, Statement.join_writtenAll rest, s.written_eq_join]
end

theorem Text.intercalate_empty (texts : List String) :
    "".intercalate texts = String.join texts := by
  induction texts with
  | nil => rw [String.intercalate_nil, String.join_nil]
  | cons text rest ih =>
    rw [String.join_cons, ← ih]
    cases rest with
    | nil => simp
    | cons next rest => rw [String.intercalate_cons_cons, String.append_empty]

theorem Statement.written_eq (s : Statement) :
    s.written = if s.leaves = [] then .absent else .present (String.join s.leaves) := by
  rw [s.written_eq_join, Fragment.join, Joiner.join_eq, texts_map_present, Text.intercalate_empty]
  simp

/-- A statement renders to the texts of its simple ones in their order, and to nothing exactly if it
has none; how they are nested has no part in it. -/
theorem outcome_on_statement (formatting : Formatting) (scope : ImportScope) (s : Statement) :
    let rendered (s : Statement) :=
      ((Dialect.java.registry.generator formatting scope).on (.statement s)).outcome
    rendered s = .ok (if s.leaves = [] then .absent else .present (String.join s.leaves)) ∧
      ∀ s', s'.leaves = s.leaves → rendered s' = rendered s := by
  have rendered (s : Statement) :
      ((Dialect.java.registry.generator formatting scope).on (.statement s)).outcome =
        .ok s.written :=
    java_writesModel.outcome_statement s (Nat.le_add_right _ _)
  simp only [rendered, Except.ok.injEq]
  refine ⟨s.written_eq, ?_⟩
  intro s' same
  rw [s'.written_eq, s.written_eq, same]

theorem outcome_on_statement_nested :
    let rendered (s : Statement) :=
      ((Dialect.java.registry.generator ⟨"\t", "\n"⟩ ⟨none, []⟩).on (.statement s)).outcome
    let nested : Statement :=
      .composite [.composite [], .composite [.simple "a();\n"], .simple "", .simple "b();"]
    let other : Statement :=
      .composite [.simple "a();\n", .composite [.simple "", .composite [.simple "b();"]]]
    other.leaves = nested.leaves ∧ rendered nested = .ok (.present "a();\nb();") ∧
      rendered other = rendered nested := by
  intro rendered nested other
  have rendersAlike := outcome_on_statement ⟨"\t", "\n"⟩ ⟨none, []⟩ nested
  have same : other.leaves = nested.leaves := rfl
  refine ⟨same, rendersAlike.1.trans ?_, rendersAlike.2 other same⟩
  rfl

namespace Joiner

variable {ε : Type}

theorem takeFragments_ok (fragments : List Fragment) :
    takeFragments (fragments.map (.ok : Fragment → Except ε Fragment)) = (.ok fragments, []) := by
  induction fragments with
  | nil => rfl
  | cons fragment rest ih => rw [List.map_cons, takeFragments, ih]

theorem takeFragments_error (before : List Fragment) (e : ε) (unread : List (Except ε Fragment)) :
    takeFragments (before.map .ok ++ .error e :: unread) = (.error e, unread) := by
  induction before with
  | nil => rfl
  | cons fragment rest ih => rw [List.map_cons, List.cons_append, takeFragments, ih]

theorem tryJoin_ok (joiner : Joiner) (fragments : List Fragment) :
    joiner.tryJoin (fragments.map (.ok : Fragment → Except ε Fragment)) =
      (.ok (joiner.join fragments), []) := by
  rw [tryJoin, takeFragments_ok]

theorem tryJoin_error (joiner : Joiner) (before : List Fragment) (e : ε)
    (unread : List (Except ε Fragment)) :
    joiner.tryJoin (before.map .ok ++ .error e :: unread) = (.error e, unread) := by
  rw [tryJoin, takeFragments_error]

end Joiner

theorem exists_first_error {ε α : Type} (items : List (Except ε α)) :
    (∃ (before : List α) (e : ε) (after : List (Except ε α)),
      items = before.map .ok ++ .error e :: after) ∨
    ∃ as : List α, items = as.map .ok := by
  induction items with
  | nil => exact .inr ⟨[], rfl⟩
  | cons item rest ih =>
    cases item with
    | error e => exact .inl ⟨[], e, rest, rfl⟩
    | ok a =>
      rcases ih with ⟨before, e, after, rfl⟩ | ⟨as, rfl⟩
      · exact .inl ⟨a :: before, e, after, rfl⟩
      · exact .inr ⟨a :: as, rfl⟩

namespace Fragment

variable {ε : Type} {separator : String}

theorem tryJoin_ok (fragments : List Fragment) :
    tryJoin separator (fragments.map (.ok : Fragment → Except ε Fragment)) =
      (.ok (join separator fragments), []) :=
  Joiner.tryJoin_ok _ fragments

theorem tryJoin_error (before : List Fragment) (e : ε) (unread : List (Except ε Fragment)) :
    tryJoin separator (before.map .ok ++ .error e :: unread) = (.error e, unread) :=
  Joiner.tryJoin_error _ before e unread

theorem tryJoin_cons (item : Except ε Fragment) (rest : List (Except ε Fragment)) :
    (tryJoin separator (item :: rest)).1 =
      item.bind fun fragment => (tryJoin separator rest).1.map (gather separator fragment) := by
  cases item with
  | error e => rfl
  | ok fragment =>
    rcases exists_first_error rest with ⟨before, e, after, rfl⟩ | ⟨fragments, rfl⟩
    · rw [← List.cons_append, ← List.map_cons, tryJoin_error, tryJoin_error]
      rfl
    · rw [← List.map_cons, tryJoin_ok, tryJoin_ok, join_cons]
      rfl

theorem tryJoin_append (before after : List (Except ε Fragment)) :
    (tryJoin separator (before ++ after)).1 =
      (tryJoin separator before).1.bind fun gathered =>
        (tryJoin separator after).1.map (gather separator gathered) := by
  induction before with
  | nil =>
    have unchanged : gather separator .absent = id := funext absent_gather
    change (tryJoin separator after).1 = (tryJoin separator after).1.map (gather separator .absent)
    rw [unchanged, Except.map_id]
    rfl
  | cons item rest ih =>
    rw [List.cons_append, tryJoin_cons, tryJoin_cons, ih]
    cases item with
    | error e => rfl
    | ok fragment =>
      cases (tryJoin separator rest).1 with
      | error e => rfl
      | ok gathered =>
        cases (tryJoin separator after).1 with
        | error e => rfl
        | ok others => exact congrArg Except.ok (gather_assoc fragment gathered others).symm

theorem tryJoin_flatten (groups : List (List (Except ε Fragment))) :
    (tryJoin separator (groups.map fun group => (tryJoin separator group).1)).1 =
      (tryJoin separator groups.flatten).1 := by
  induction groups with
  | nil => rfl
  | cons group rest ih =>
    rw [List.map_cons, tryJoin_cons, ih, List.flatten_cons, tryJoin_append]

end Fragment

namespace Rendering

variable {α : Type}

theorem bind_pure_of_ok {β : Type} {first : Rendering α} {a : α} (ended : first.outcome = .ok a)
    (f : α → β) : (first >>= fun a => pure (f a)) = ⟨first.visited, .ok (f a)⟩ := by
  rw [bind_ok ended]
  exact congrArg (Rendering.mk · (.ok (f a))) (List.append_nil _)

theorem sequence_of_ok {items : List (Rendering α)} {as : List α}
    (ended : items.map outcome = as.map .ok) :
    sequence items = ⟨items.flatMap visited, .ok as⟩ := by
  induction items generalizing as with
  | nil =>
    obtain rfl := List.map_eq_nil_iff.mp ended.symm
    rfl
  | cons item rest ih =>
    obtain ⟨a, others, rfl, first, ended⟩ := List.map_eq_cons_iff.mp ended.symm
    rw [sequence, bind_ok first.symm, ih ended.symm, bind_pure_of_ok rfl, List.flatMap_cons]

theorem sequence_of_error {before : List (Rendering α)} {as : List α}
    (ended : before.map outcome = as.map .ok) {item : Rendering α} {e : RenderError}
    (failed : item.outcome = .error e) (after : List (Rendering α)) :
    sequence (before ++ item :: after) = ⟨(before ++ [item]).flatMap visited, .error e⟩ := by
  induction before generalizing as with
  | nil =>
    rw [List.nil_append, sequence, bind_error failed, List.nil_append, List.flatMap_singleton]
  | cons first rest ih =>
    obtain ⟨a, others, rfl, ok, ended⟩ := List.map_eq_cons_iff.mp ended.symm
    rw [List.cons_append, sequence, bind_ok ok.symm, ih ended.symm, bind_error rfl,
      List.cons_append, List.flatMap_cons]

end Rendering

namespace Generator

variable {g : Generator} {fragments : List Fragment}

theorem joinEachWith_of_ok {nodes : List Node}
    (ended : nodes.map (fun node => (g.on node).outcome) = fragments.map .ok) (joiner : Joiner) :
    g.joinEachWith nodes joiner =
      ⟨nodes.flatMap fun node => (g.on node).visited, .ok (joiner.join fragments)⟩ := by
  have rendered : (g.onEach nodes).map Rendering.outcome = fragments.map .ok := by
    rw [onEach, List.map_map]
    exact ended
  rw [joinEachWith, Rendering.joined, Rendering.sequence_of_ok rendered,
    Rendering.bind_pure_of_ok rfl, onEach, List.flatMap_map]

theorem joinEachWith_of_error {before : List Node}
    (ended : before.map (fun node => (g.on node).outcome) = fragments.map .ok) {node : Node}
    {e : RenderError} (failed : (g.on node).outcome = .error e) (after : List Node)
    (joiner : Joiner) :
    g.joinEachWith (before ++ node :: after) joiner =
      ⟨(before ++ [node]).flatMap fun node => (g.on node).visited, .error e⟩ := by
  have rendered : (before.map g.on).map Rendering.outcome = fragments.map .ok := by
    rw [List.map_map]
    exact ended
  have stopped := Rendering.sequence_of_error rendered failed (after.map g.on)
  rw [joinEachWith, onEach, List.map_append, List.map_cons, Rendering.joined, stopped,
    Rendering.bind_error rfl, ← List.map_singleton, ← List.map_append, List.flatMap_map]

end Generator

/-- What joining comes to in all of its forms. Without errors it is absent where no fragment is
present, and the present texts with the separator between them and the two texts around them
otherwise. With errors it is the first one, nothing behind it is taken, and no node behind it is
visited. And fragments may be joined group by group. -/
theorem joins_agree (joiner : Joiner) :
    (∀ fragments : List Fragment,
      joiner.join fragments =
          (if Fragment.texts fragments = [] then .absent
          else .present (joiner.opening ++
            joiner.separator.intercalate (Fragment.texts fragments) ++ joiner.closing)) ∧
        Fragment.joinWrapped joiner.separator joiner.opening joiner.closing fragments =
          joiner.join fragments ∧
        Fragment.join joiner.separator fragments =
          (if Fragment.texts fragments = [] then .absent
          else .present (joiner.separator.intercalate (Fragment.texts fragments))) ∧
        Fragment.join joiner.separator fragments =
          fragments.foldl (Fragment.gather joiner.separator) .absent) ∧
    (∀ (ε : Type) (items : List (Except ε Fragment)),
      (∃ (before : List Fragment) (e : ε) (after : List (Except ε Fragment)),
        items = before.map .ok ++ .error e :: after ∧
          joiner.tryJoin items = (.error e, after) ∧
          Fragment.tryJoin joiner.separator items = (.error e, after)) ∨
      ∃ fragments : List Fragment, items = fragments.map .ok ∧
        joiner.tryJoin items = (.ok (joiner.join fragments), []) ∧
        Fragment.tryJoin joiner.separator items =
          (.ok (Fragment.join joiner.separator fragments), [])) ∧
    (∀ (g : Generator) (nodes : List Node),
      (∃ before node after e, ∃ fragments : List Fragment, nodes = before ++ node :: after ∧
        before.map (fun node => (g.on node).outcome) = fragments.map .ok ∧
        (g.on node).outcome = .error e ∧
        g.joinEachWith nodes joiner =
          ⟨(before ++ [node]).flatMap fun node => (g.on node).visited, .error e⟩) ∨
      ∃ fragments : List Fragment, nodes.map (fun node => (g.on node).outcome) = fragments.map .ok ∧
        g.joinEachWith nodes joiner =
          ⟨nodes.flatMap fun node => (g.on node).visited, .ok (joiner.join fragments)⟩) ∧
    (∀ groups : List (List Fragment),
      Fragment.join joiner.separator (groups.map (Fragment.join joiner.separator)) =
        Fragment.join joiner.separator groups.flatten) ∧
    ∀ (ε : Type) (groups : List (List (Except ε Fragment))),
      (Fragment.tryJoin joiner.separator
        (groups.map fun group => (Fragment.tryJoin joiner.separator group).1)).1 =
        (Fragment.tryJoin joiner.separator groups.flatten).1 := by
  refine ⟨fun fragments => ?_, fun ε items => ?_, fun g nodes => ?_, Fragment.join_flatten,
    fun _ => Fragment.tryJoin_flatten⟩
  · refine ⟨joiner.join_eq fragments, Fragment.joinWrapped_eq joiner fragments, ?_,
      Fragment.join_eq_foldl fragments⟩
    rw [Fragment.join, Joiner.join_eq]
    simp
  · rcases exists_first_error items with ⟨before, e, after, rfl⟩ | ⟨fragments, rfl⟩
    · exact .inl ⟨before, e, after, rfl, joiner.tryJoin_error before e after,
        Joiner.tryJoin_error _ before e after⟩
    · exact .inr ⟨fragments, rfl, joiner.tryJoin_ok fragments, Joiner.tryJoin_ok _ fragments⟩
  · rcases exists_first_error (nodes.map fun node => (g.on node).outcome) with
      ⟨fragments, e, others, split⟩ | ⟨fragments, ended⟩
    -- The first error among the outcomes is that of a node with only fragments before it.
    · obtain ⟨before, rest, rfl, ended, split⟩ := List.map_eq_append_iff.mp split
      obtain ⟨node, after, rfl, failed, -⟩ := List.map_eq_cons_iff.mp split
      exact .inl ⟨before, node, after, e, fragments, rfl, ended, failed,
        Generator.joinEachWith_of_error ended failed after joiner⟩
    · exact .inr ⟨fragments, ended, Generator.joinEachWith_of_ok ended joiner⟩

end SourceModel
