import SourceModel.Proofs.ModelRendering

namespace SourceModel

mutual
def Statement.leaves : Statement → List String
  | .simple text => [text]
  | .composite children => Statement.leavesAll children
def Statement.leavesAll : List Statement → List String
  | [] => []
  | s :: rest => Statement.leaves s ++ Statement.leavesAll rest
end

def Statement.IsVacant (s : Statement) : Prop := s.leaves = []

def TypeRef.IsVacant (t : TypeRef) : Prop := t.name = ""

def Generic.IsVacant (g : Generic) : Prop := g.lower = none ∧ ∀ t ∈ g.bounds, t.IsVacant

def Node.IsVacant : Node → Prop
  | .type t => t.IsVacant
  | .generic g => g.IsVacant
  | .statement s => s.IsVacant
  | .javadoc j => j = {}
  | _ => False

theorem Fragment.join_ne_absent {separator : String} {fragments : List Fragment} (text : String)
    (mem : .present text ∈ fragments) : Fragment.join separator fragments ≠ .absent := by
  intro absent
  cases (Joiner.join_eq_absent_iff _ _).mp absent _ mem

theorem TypeRef.written_eq_absent_iff {f : String → String} {t : TypeRef} :
    t.written f = .absent ↔ t.IsVacant := by
  cases t with
  | mk name arguments dimensions =>
    rw [TypeRef.written, TypeRef.IsVacant, TypeRef.name]
    by_cases unnamed : name = "" <;> simp [unnamed]

theorem TypeRef.writtenArguments_eq (f : String → String) (gs : List Generic) :
    TypeRef.writtenArguments f gs = gs.map (Generic.written f) := by
  induction gs with
  | nil => rfl
  | cons g rest ih => rw [TypeRef.writtenArguments, ih]; rfl

theorem Generic.writtenBounds_eq (f : String → String) (ts : List TypeRef) :
    Generic.writtenBounds f ts = ts.map (TypeRef.written f) := by
  induction ts with
  | nil => rfl
  | cons t rest ih => rw [Generic.writtenBounds, ih]; rfl

theorem Generic.written_eq_absent_iff {f : String → String} {g : Generic} :
    g.written f = .absent ↔ g.IsVacant := by
  cases g with
  | mk lower bounds keyword =>
    cases lower with
    | none =>
      rw [Generic.written, Generic.writtenBounds_eq]
      simp [Fragment.join, Joiner.join_eq_absent_iff, TypeRef.written_eq_absent_iff,
        Generic.IsVacant, Generic.lower, Generic.bounds]
    | some lower =>
      rw [Generic.written]
      refine iff_of_false (Fragment.join_ne_absent _ List.mem_cons_self) fun vacant => ?_
      cases vacant.1

mutual
theorem Statement.written_eq_absent_iff : ∀ {s : Statement}, s.written = .absent ↔ s.IsVacant
  | .simple text => by simp [Statement.written, Statement.IsVacant, Statement.leaves]
  | .composite children => by
    rw [Statement.written, Fragment.join, Joiner.join_eq_absent_iff]
    exact Statement.writtenAll_absent_iff
theorem Statement.writtenAll_absent_iff : ∀ {ss : List Statement},
    (∀ fragment ∈ Statement.writtenAll ss, fragment = .absent) ↔ Statement.leavesAll ss = []
  | [] => by simp [Statement.writtenAll, Statement.leavesAll]
  | s :: rest => by
    rw [Statement.writtenAll, Statement.leavesAll, List.forall_mem_cons,
      List.append_eq_nil_iff]
    exact and_congr Statement.written_eq_absent_iff Statement.writtenAll_absent_iff
end

theorem Text.lines_eq_nil_iff {text : String} : Text.lines text = [] ↔ text = "" := by
  rw [Text.lines, List.map_eq_nil_iff, ← String.toList_eq_nil_iff]
  constructor
  · intro none
    unfold Text.charLines at none
    split at none
    · assumption
    · cases none
    · cases none
    · split at none <;> cases none
  · intro empty
    rw [empty, Text.charLines]

theorem JavadocTag.written_ne_absent (tag : JavadocTag) : tag.written ≠ .absent :=
  Fragment.join_ne_absent _ List.mem_cons_self

theorem Javadoc.tagTexts_eq_nil_iff {j : Javadoc} : j.tagTexts = [] ↔ j.tags = [] := by
  rw [Javadoc.tagTexts, Fragment.texts, List.filterMap_eq_nil_iff, List.forall_mem_map]
  constructor
  · intro none
    cases tags : j.tags with
    | nil => rfl
    | cons tag rest =>
      have first := none tag (tags ▸ List.mem_cons_self)
      cases written : tag.written with
      | absent => exact absurd written tag.written_ne_absent
      | present text => rw [written] at first; cases first
  · intro none
    rw [none]
    exact List.forall_mem_nil _

theorem Javadoc.written_eq_absent_iff {newline : String} {j : Javadoc} :
    j.written newline = .absent ↔ j = {} := by
  obtain ⟨text, tags⟩ := j
  rw [Javadoc.written]
  split
  · simp_all [Text.lines_eq_nil_iff, Javadoc.tagTexts_eq_nil_iff]
  · simp_all [Text.lines_eq_nil_iff, Javadoc.tagTexts_eq_nil_iff]

theorem unlessUntyped_ne_absent {untyped : Option NodeKind} {fragment : Fragment}
    (present : fragment ≠ .absent) : unlessUntyped untyped fragment ≠ .ok .absent := by
  cases untyped with
  | none => exact fun same => present (Except.ok.inj same)
  | some owner => exact fun same => by cases same

/-- Of the parts of a file those that are vacant are the ones that render to nothing. -/
theorem Registry.WritesModel.outcome_on_eq_absent_iff {r : Registry} (views : r.WritesModel)
    (formatting : Formatting) (scope : ImportScope) {node : Node} (builtIn : node.IsBuiltIn)
    (inner : node.kind ≠ .file) :
    ((r.generator formatting scope).on node).outcome = .ok .absent ↔ node.IsVacant := by
  have enough : node.height ≤ node.height + r.reach := Nat.le_add_right _ _
  change (r.dispatch formatting (node.height + r.reach) scope node).outcome = _ ↔ _
  -- Types, generics, statements and comments may be vacant; any other part writes something.
  cases node with
  | file file => exact absurd rfl inner
  | importLine imported =>
    have written := outcome_dispatch_succ (views.importLine imported) formatting r.reach scope
    rw [Node.height, Nat.add_comm, written]
    exact iff_of_false (fun same => by cases same) id
  | classDecl decl =>
    have written : (r.dispatch formatting (Node.height (.classDecl decl) + r.reach) scope
        (.classDecl decl)).outcome = _ := views.outcome_declaration (.classDecl decl) enough
    rw [written]
    exact iff_of_false (unlessUntyped_ne_absent (by simp)) id
  | interfaceDecl decl =>
    have written : (r.dispatch formatting (Node.height (.interfaceDecl decl) + r.reach) scope
        (.interfaceDecl decl)).outcome = _ := views.outcome_declaration (.interfaceDecl decl) enough
    rw [written]
    exact iff_of_false (unlessUntyped_ne_absent (by simp)) id
  | method method =>
    rw [views.outcome_method method enough]
    exact iff_of_false (unlessUntyped_ne_absent (by simp)) id
  | field field =>
    rw [views.outcome_field field enough]
    exact iff_of_false (unlessUntyped_ne_absent (by simp)) id
  | parameter parameter =>
    rw [views.outcome_parameter parameter enough]
    refine iff_of_false (unlessUntyped_ne_absent ?_) id
    exact Fragment.join_ne_absent parameter.name (by simp)
  | type t =>
    rw [views.outcome_type t _ enough, Except.ok.injEq]
    exact TypeRef.written_eq_absent_iff
  | generic g =>
    rw [views.outcome_generic g _ enough, Except.ok.injEq]
    exact Generic.written_eq_absent_iff
  | statement s =>
    rw [views.outcome_statement s enough, Except.ok.injEq]
    exact Statement.written_eq_absent_iff
  | javadoc j =>
    rw [views.outcome_javadoc j enough, Except.ok.injEq]
    exact Javadoc.written_eq_absent_iff
  | javadocTag tag =>
    have written := outcome_dispatch_succ (views.javadocTag tag) formatting r.reach scope
    rw [Node.height, Nat.add_comm, written]
    exact iff_of_false (fun same => tag.written_ne_absent (Except.ok.inj same)) id
  | custom _ _ _ _ => exact builtIn.elim
  | bare _ => exact builtIn.elim

end SourceModel
