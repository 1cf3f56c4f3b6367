import SourceModel.Proofs.ModelRendering

namespace SourceModel

theorem TypeRef.heightArguments_eq (gs : List Generic) :
    TypeRef.heightArguments gs = greatest (gs.map Generic.height) := by
  induction gs with
  | nil => rfl
  | cons g rest ih => rw [TypeRef.heightArguments, ih]; rfl

theorem Generic.heightBounds_eq (ts : List TypeRef) :
    Generic.heightBounds ts = greatest (ts.map TypeRef.height) := by
  induction ts with
  | nil => rfl
  | cons t rest ih => rw [Generic.heightBounds, ih]; rfl

namespace Node

theorem heightAll_eq (nodes : List Node) : heightAll nodes = greatest (nodes.map height) := by
  induction nodes with
  | nil => rfl
  | cons node rest ih => rw [heightAll, ih]; rfl

/-- What the view of the node may ask for; of the imports of a file that are those to be written. -/
def children : Node → List Node
  | file f =>
    (f.imports.toList.filter (View.needsImport f.package?)).map importLine ++
      f.declarations.map ofDeclaration
  | classDecl d =>
    (d.supertype.map type).toList ++ d.interfaces.map type ++ d.generics.map generic ++
      d.fields.map field ++ d.methods.map method ++ (d.javadoc.map javadoc).toList
  | interfaceDecl d =>
    d.supertypes.map type ++ d.generics.map generic ++ d.fields.map field ++
      d.methods.map method ++ (d.javadoc.map javadoc).toList
  | method m =>
    m.parameters.map parameter ++ m.generics.map generic ++ [type m.returns] ++
      m.throws.map type ++ (m.body.getD []).map statement ++ (m.javadoc.map javadoc).toList
  | field f => (f.type.map type).toList ++ (f.javadoc.map javadoc).toList
  | parameter p => (p.type.map type).toList
  | type t => t.arguments.map generic
  | generic g => g.bounds.map type
  | statement (.simple _) => []
  | statement (.composite parts) => parts.map statement
  | javadoc j => j.tags.map javadocTag
  | importLine _ => []
  | javadocTag _ => []
  | custom _ _ _ nodes => nodes
  | bare _ => []

theorem height_pos (node : Node) : 0 < node.height := by
  cases node with
  | type t => cases t; exact Nat.succ_pos _
  | generic g => cases g; exact Nat.succ_pos _
  | statement s => cases s <;> exact Nat.succ_pos _
  | custom kind capabilities text nodes => rw [height]; exact Nat.succ_pos _
  | _ => exact Nat.succ_pos _

variable {ι : Type} {bound : Nat}

theorem forall_mem_map_height_le {node : ι → Node} {own : ι → Nat}
    (height_eq : ∀ item, (node item).height = own item) {items : List ι}
    (enough : greatest (items.map own) ≤ bound) :
    ∀ child ∈ items.map node, child.height ≤ bound := by
  rw [List.forall_mem_map]
  intro item mem
  rw [height_eq]
  exact height_le_of_mem enough mem

theorem forall_mem_type_height_le {t : Option TypeRef} (enough : optionalTypeHeight t ≤ bound) :
    ∀ child ∈ (t.map type).toList, child.height ≤ bound := by
  cases t with
  | none => exact List.forall_mem_nil _
  | some t => exact List.forall_mem_singleton.mpr enough

theorem forall_mem_javadoc_height_le {comment : Option Javadoc} (enough : 2 ≤ bound) :
    ∀ child ∈ (comment.map javadoc).toList, child.height ≤ bound := by
  cases comment with
  | none => exact List.forall_mem_nil _
  | some comment => exact List.forall_mem_singleton.mpr enough

theorem children_height_le {node : Node} (enough : node.height ≤ bound + 1) :
    ∀ child ∈ node.children, child.height ≤ bound := by
  -- The height of a node is one more than that of the highest node it may ask for.
  cases node with
  | file f =>
    obtain ⟨importLe, declarationsLe⟩ := Nat.max_le.mp (Nat.le_of_succ_le_succ enough)
    rw [children, List.forall_mem_append]
    refine ⟨?_, forall_mem_map_height_le (fun decl => ?_) declarationsLe⟩
    · rw [List.forall_mem_map]
      exact fun _ _ => importLe
    · cases decl <;> rfl
  | classDecl d =>
    have nested := Nat.le_of_succ_le_succ enough
    simp only [greatest, Nat.max_le] at nested
    obtain ⟨supertypeLe, interfacesLe, genericsLe, fieldsLe, methodsLe, commentLe, -⟩ := nested
    simp only [children, List.forall_mem_append, and_assoc]
    exact ⟨forall_mem_type_height_le supertypeLe,
      forall_mem_map_height_le (fun _ => rfl) interfacesLe,
      forall_mem_map_height_le (fun _ => rfl) genericsLe,
      forall_mem_map_height_le (fun _ => rfl) fieldsLe,
      forall_mem_map_height_le (fun _ => rfl) methodsLe, forall_mem_javadoc_height_le commentLe⟩
  | interfaceDecl d =>
    have nested := Nat.le_of_succ_le_succ enough
    simp only [greatest, Nat.max_le] at nested
    obtain ⟨supertypesLe, genericsLe, fieldsLe, methodsLe, commentLe, -⟩ := nested
    simp only [children, List.forall_mem_append, and_assoc]
    exact ⟨forall_mem_map_height_le (fun _ => rfl) supertypesLe,
      forall_mem_map_height_le (fun _ => rfl) genericsLe,
      forall_mem_map_height_le (fun _ => rfl) fieldsLe,
      forall_mem_map_height_le (fun _ => rfl) methodsLe, forall_mem_javadoc_height_le commentLe⟩
  | method m =>
    have nested := Nat.le_of_succ_le_succ enough
    simp only [greatest, Nat.max_le] at nested
    obtain ⟨returnsLe, parametersLe, genericsLe, throwsLe, bodyLe, commentLe, -⟩ := nested
    simp only [children, List.forall_mem_append, and_assoc]
    exact ⟨forall_mem_map_height_le (fun _ => rfl) parametersLe,
      forall_mem_map_height_le (fun _ => rfl) genericsLe,
      List.forall_mem_singleton.mpr returnsLe,
      forall_mem_map_height_le (fun _ => rfl) throwsLe,
      forall_mem_map_height_le (fun _ => rfl) bodyLe, forall_mem_javadoc_height_le commentLe⟩
  | field f =>
    obtain ⟨typeLe, commentLe⟩ := Nat.max_le.mp (Nat.le_of_succ_le_succ enough)
    rw [children, List.forall_mem_append]
    exact ⟨forall_mem_type_height_le typeLe, forall_mem_javadoc_height_le commentLe⟩
  | parameter p => exact forall_mem_type_height_le (Nat.le_of_succ_le_succ enough)
  | type t =>
    cases t with
    | mk name arguments dimensions =>
      rw [height, TypeRef.height, TypeRef.heightArguments_eq] at enough
      exact forall_mem_map_height_le (fun _ => rfl) (Nat.le_of_succ_le_succ enough)
  | generic g =>
    cases g with
    | mk lower bounds keyword =>
      rw [height, Generic.height, Generic.heightBounds_eq] at enough
      exact forall_mem_map_height_le (fun _ => rfl) (Nat.le_of_succ_le_succ enough)
  | statement s =>
    cases s with
    | simple text => exact List.forall_mem_nil _
    | composite parts =>
      rw [height, Statement.height, Statement.heightAll_eq] at enough
      exact forall_mem_map_height_le (fun _ => rfl) (Nat.le_of_succ_le_succ enough)
  | javadoc j =>
    rw [children, List.forall_mem_map]
    exact fun _ _ => Nat.le_of_succ_le_succ enough
  | custom kind capabilities text nodes =>
    rw [height, heightAll_eq] at enough
    exact fun child => height_le_of_mem (Nat.le_of_succ_le_succ enough)
  | importLine _ => exact List.forall_mem_nil _
  | javadocTag _ => exact List.forall_mem_nil _
  | bare _ => exact List.forall_mem_nil _

theorem children_isBuiltIn {node : Node} (builtIn : node.IsBuiltIn) :
    ∀ child ∈ node.children, child.IsBuiltIn := by
  cases node with
  | file f =>
    rw [children, List.forall_mem_append, List.forall_mem_map, List.forall_mem_map]
    refine ⟨fun _ _ => trivial, fun decl _ => ?_⟩
    cases decl <;> trivial
  | statement s => cases s <;> simp [children, IsBuiltIn]
  | custom _ _ _ _ => exact builtIn.elim
  | bare _ => exact builtIn.elim
  | _ => simp [children, IsBuiltIn, or_imp, forall_and]

end Node

end SourceModel
