import SourceModel.Proofs.VacantParts

namespace SourceModel

/-! ## Gains -/

/-- The second list has one more element, which is vacant, or one of its elements gained a part. -/
inductive ListGains {α : Type} (node : α → Node) (gains : α → α → Prop) : List α → List α → Prop
  | insert (before : List α) {a : α} (after : List α) (vacant : (node a).IsVacant) :
      ListGains node gains (before ++ after) (before ++ a :: after)
  | within (before : List α) {a b : α} (after : List α) (gained : gains a b) :
      ListGains node gains (before ++ a :: after) (before ++ b :: after)

mutual
inductive TypeRef.Gains : TypeRef → TypeRef → Prop
  | insert {name : String} {dimensions : Nat} (before : List Generic) {g : Generic}
      (after : List Generic) (vacant : g.IsVacant) :
      TypeRef.Gains (.mk name (before ++ after) dimensions) (.mk name (before ++ g :: after) dimensions)
  | within {name : String} {dimensions : Nat} (before : List Generic) {g g' : Generic}
      (after : List Generic) (gained : Generic.Gains g g') :
      TypeRef.Gains (.mk name (before ++ g :: after) dimensions)
        (.mk name (before ++ g' :: after) dimensions)
inductive Generic.Gains : Generic → Generic → Prop
  | insert {lower : Option String} {keyword : BoundKeyword} (before : List TypeRef) {t : TypeRef}
      (after : List TypeRef) (vacant : t.IsVacant) :
      Generic.Gains (.mk lower (before ++ after) keyword) (.mk lower (before ++ t :: after) keyword)
  | within {lower : Option String} {keyword : BoundKeyword} (before : List TypeRef) {t t' : TypeRef}
      (after : List TypeRef) (gained : TypeRef.Gains t t') :
      Generic.Gains (.mk lower (before ++ t :: after) keyword)
        (.mk lower (before ++ t' :: after) keyword)
end

inductive Statement.Gains : Statement → Statement → Prop
  | insert (before : List Statement) {s : Statement} (after : List Statement)
      (vacant : s.IsVacant) :
      Gains (.composite (before ++ after)) (.composite (before ++ s :: after))
  | within (before : List Statement) {s s' : Statement} (after : List Statement)
      (gained : Gains s s') :
      Gains (.composite (before ++ s :: after)) (.composite (before ++ s' :: after))

inductive Field.Gains : Field → Field → Prop
  | type {field : Field} {t t' : TypeRef} (given : field.type = some t) (gained : t.Gains t') :
      Gains field { field with type := some t' }
  | javadoc {field : Field} (none : field.javadoc = none) :
      Gains field { field with javadoc := some {} }

inductive Parameter.Gains : Parameter → Parameter → Prop
  | type {parameter : Parameter} {t t' : TypeRef} (given : parameter.type = some t)
      (gained : t.Gains t') : Gains parameter { parameter with type := some t' }

inductive Method.Gains : Method → Method → Prop
  | returns {method : Method} {t : TypeRef} (gained : method.returns.Gains t) :
      Gains method { method with returns := t }
  | generics {method : Method} {gs : List Generic}
      (gained : ListGains .generic Generic.Gains method.generics gs) :
      Gains method { method with generics := gs }
  | parameters {method : Method} {ps : List Parameter}
      (gained : ListGains .parameter Parameter.Gains method.parameters ps) :
      Gains method { method with parameters := ps }
  | throws {method : Method} {ts : List TypeRef}
      (gained : ListGains .type TypeRef.Gains method.throws ts) :
      Gains method { method with throws := ts }
  | body {method : Method} {ss ss' : List Statement} (given : method.body = some ss)
      (gained : ListGains .statement Statement.Gains ss ss') :
      Gains method { method with body := some ss' }
  | javadoc {method : Method} (none : method.javadoc = none) :
      Gains method { method with javadoc := some {} }

inductive ClassDecl.Gains : ClassDecl → ClassDecl → Prop
  | generics {decl : ClassDecl} {gs : List Generic}
      (gained : ListGains .generic Generic.Gains decl.generics gs) :
      Gains decl { decl with generics := gs }
  | newSupertype {decl : ClassDecl} {t : TypeRef} (none : decl.supertype = none)
      (vacant : t.IsVacant) : Gains decl { decl with supertype := some t }
  | supertype {decl : ClassDecl} {t t' : TypeRef} (given : decl.supertype = some t)
      (gained : t.Gains t') : Gains decl { decl with supertype := some t' }
  | interfaces {decl : ClassDecl} {ts : List TypeRef}
      (gained : ListGains .type TypeRef.Gains decl.interfaces ts) :
      Gains decl { decl with interfaces := ts }
  | fields {decl : ClassDecl} {fs : List Field}
      (gained : ListGains .field Field.Gains decl.fields fs) : Gains decl { decl with fields := fs }
  | methods {decl : ClassDecl} {ms : List Method}
      (gained : ListGains .method Method.Gains decl.methods ms) :
      Gains decl { decl with methods := ms }
  | javadoc {decl : ClassDecl} (none : decl.javadoc = none) :
      Gains decl { decl with javadoc := some {} }

inductive InterfaceDecl.Gains : InterfaceDecl → InterfaceDecl → Prop
  | generics {decl : InterfaceDecl} {gs : List Generic}
      (gained : ListGains .generic Generic.Gains decl.generics gs) :
      Gains decl { decl with generics := gs }
  | supertypes {decl : InterfaceDecl} {ts : List TypeRef}
      (gained : ListGains .type TypeRef.Gains decl.supertypes ts) :
      Gains decl { decl with supertypes := ts }
  | fields {decl : InterfaceDecl} {fs : List Field}
      (gained : ListGains .field Field.Gains decl.fields fs) : Gains decl { decl with fields := fs }
  | methods {decl : InterfaceDecl} {ms : List Method}
      (gained : ListGains .method Method.Gains decl.methods ms) :
      Gains decl { decl with methods := ms }
  | javadoc {decl : InterfaceDecl} (none : decl.javadoc = none) :
      Gains decl { decl with javadoc := some {} }

inductive Declaration.Gains : Declaration → Declaration → Prop
  | classDecl {decl decl' : ClassDecl} (gained : decl.Gains decl') :
      Gains (.classDecl decl) (.classDecl decl')
  | interfaceDecl {decl decl' : InterfaceDecl} (gained : decl.Gains decl') :
      Gains (.interfaceDecl decl) (.interfaceDecl decl')

inductive SourceFile.Gains : SourceFile → SourceFile → Prop
  | declarations {file : SourceFile} {decls : List Declaration}
      (gained : ListGains .ofDeclaration Declaration.Gains file.declarations decls) :
      Gains file { file with declarations := decls }

/-! ## Texts of parts that gained one -/

theorem Joiner.join_insert_absent (joiner : Joiner) (before after : List Fragment) :
    joiner.join (before ++ .absent :: after) = joiner.join (before ++ after) := by
  have texts : Fragment.texts (before ++ .absent :: after) = Fragment.texts (before ++ after) := by
    simp only [Fragment.texts, List.filterMap_append, List.filterMap_cons, Fragment.text?]
  rw [Joiner.join, Joiner.join, texts]

namespace ListGains

variable {α : Type} {node : α → Node} {gains : α → α → Prop} {as bs : List α}

theorem join_map (gained : ListGains node gains as bs) {write : α → Fragment}
    (vacant : ∀ a, (node a).IsVacant → write a = .absent)
    (same : ∀ a b, gains a b → write b = write a) (joiner : Joiner) :
    joiner.join (bs.map write) = joiner.join (as.map write) := by
  cases gained with
  | insert before after silent =>
    rw [List.map_append, List.map_cons, vacant _ silent, Joiner.join_insert_absent,
      List.map_append]
  | within before after gained =>
    rw [List.map_append, List.map_cons, same _ _ gained, List.map_append, List.map_cons]

theorem map_eq {β : Type} (gained : ListGains node gains as bs) {f : α → β}
    (never : ∀ a, ¬ (node a).IsVacant) (same : ∀ a b, gains a b → f b = f a) :
    bs.map f = as.map f := by
  cases gained with
  | insert before after vacant => exact absurd vacant (never _)
  | within before after gained =>
    rw [List.map_append, List.map_cons, same _ _ gained, List.map_append, List.map_cons]

theorem findSome?_eq {β : Type} (gained : ListGains node gains as bs) {f : α → Option β}
    (never : ∀ a, ¬ (node a).IsVacant) (same : ∀ a b, gains a b → f b = f a) :
    bs.findSome? f = as.findSome? f := by
  have mapped := gained.map_eq never same
  have found := congrArg (List.findSome? id) mapped
  rwa [List.findSome?_map, List.findSome?_map] at found

end ListGains

mutual
theorem TypeRef.Gains.written_eq (f : String → String) :
    ∀ {t t' : TypeRef}, t.Gains t' → t'.written f = t.written f
  | _, _, .insert before after vacant => by
    have silent := Generic.written_eq_absent_iff (f := f).mpr vacant
    simp only [TypeRef.written, TypeRef.writtenArguments_eq, List.map_append, List.map_cons,
      silent, Joiner.join_insert_absent]
  | _, _, .within before after gained => by
    simp only [TypeRef.written, TypeRef.writtenArguments_eq, List.map_append, List.map_cons,
      gained.written_eq f]
theorem Generic.Gains.written_eq (f : String → String) :
    ∀ {g g' : Generic}, g.Gains g' → g'.written f = g.written f
  | _, _, .insert before after vacant => by
    have silent := TypeRef.written_eq_absent_iff (f := f).mpr vacant
    simp only [Generic.written, Generic.writtenBounds_eq, List.map_append, List.map_cons, silent,
      Fragment.join, Joiner.join_insert_absent]
  | _, _, .within before after gained => by
    simp only [Generic.written, Generic.writtenBounds_eq, List.map_append, List.map_cons,
      gained.written_eq f]
end

theorem Statement.Gains.written_eq {s s' : Statement} (gained : s.Gains s') :
    s'.written = s.written := by
  induction gained with
  | insert before after vacant =>
    have silent := Statement.written_eq_absent_iff.mpr vacant
    simp only [Statement.written, Statement.writtenAll_eq, List.map_append, List.map_cons, silent,
      Fragment.join, Joiner.join_insert_absent]
  | within before after gained ih =>
    simp only [Statement.written, Statement.writtenAll_eq, List.map_append, List.map_cons, ih]

section
variable {f : String → String}

theorem join_written_generics {gs gs' : List Generic}
    (gained : ListGains .generic Generic.Gains gs gs') (joiner : Joiner) :
    joiner.join (gs'.map (Generic.written f)) = joiner.join (gs.map (Generic.written f)) :=
  gained.join_map (fun _ vacant => Generic.written_eq_absent_iff.mpr vacant)
    (fun _ _ gained => gained.written_eq f) joiner

theorem join_written_types {ts ts' : List TypeRef} (gained : ListGains .type TypeRef.Gains ts ts')
    (joiner : Joiner) :
    joiner.join (ts'.map (TypeRef.written f)) = joiner.join (ts.map (TypeRef.written f)) :=
  gained.join_map (fun _ vacant => TypeRef.written_eq_absent_iff.mpr vacant)
    (fun _ _ gained => gained.written_eq f) joiner

theorem join_written_statements {ss ss' : List Statement}
    (gained : ListGains .statement Statement.Gains ss ss') (joiner : Joiner) :
    joiner.join (ss'.map Statement.written) = joiner.join (ss.map Statement.written) :=
  gained.join_map (fun _ vacant => Statement.written_eq_absent_iff.mpr vacant)
    (fun _ _ gained => gained.written_eq) joiner

/-! ## Members -/

theorem Parameter.Gains.written_eq {parameter parameter' : Parameter}
    (gained : parameter.Gains parameter') : parameter'.written f = parameter.written f := by
  cases gained with
  | type given gained =>
    simp only [Parameter.written, given, Fragment.ofOptional, gained.written_eq f]

theorem Parameter.Gains.untyped?_eq {parameter parameter' : Parameter}
    (gained : parameter.Gains parameter') : parameter'.untyped? = parameter.untyped? := by
  cases gained with
  | type given gained => simp only [Parameter.untyped?, given, Option.isNone_some]

theorem commented_of_none {newline text : String} {comment : Option Javadoc}
    (none : comment = none) : commented newline (some {}) text = commented newline comment text := by
  rw [none]
  rfl

variable {formatting : Formatting}

theorem Field.Gains.text_eq {field field' : Field} (gained : field.Gains field') :
    field'.text formatting f = field.text formatting f := by
  cases gained with
  | type given gained =>
    simp only [Field.text, Field.line, given, Fragment.ofOptional, gained.written_eq f]
  | javadoc none => exact commented_of_none none

theorem Field.Gains.untyped?_eq {field field' : Field} (gained : field.Gains field') :
    field'.untyped? = field.untyped? := by
  cases gained with
  | type given gained => simp only [Field.untyped?, given, Option.isNone_some]
  | javadoc none => rfl

theorem Method.Gains.text_eq {method method' : Method} (gained : method.Gains method') :
    method'.text formatting f = method.text formatting f := by
  cases gained with
  | returns gained => simp only [Method.text, Method.head, gained.written_eq f]
  | generics gained => simp only [Method.text, Method.head, join_written_generics gained]
  | parameters gained =>
    have written := gained.map_eq (f := Parameter.written f) (fun _ => id)
      fun _ _ gained => gained.written_eq
    simp only [Method.text, Method.head, written]
  | throws gained => simp only [Method.text, Method.head, join_written_types gained]
  | body given gained =>
    simp only [Method.text, Method.head, given, Fragment.join, join_written_statements gained]
  | javadoc none => exact commented_of_none none

theorem Method.Gains.untyped?_eq {method method' : Method} (gained : method.Gains method') :
    method'.untyped? = method.untyped? := by
  cases gained with
  | parameters gained => exact gained.findSome?_eq (fun _ => id) fun _ _ gained => gained.untyped?_eq
  | _ => rfl

/-! ## Declarations and files -/

theorem map_text_fields {fields fields' : List Field}
    (gained : ListGains .field Field.Gains fields fields') :
    fields'.map (Field.text formatting f) = fields.map (Field.text formatting f) :=
  gained.map_eq (fun _ => id) fun _ _ gained => gained.text_eq

theorem map_text_methods {methods methods' : List Method}
    (gained : ListGains .method Method.Gains methods methods') :
    methods'.map (Method.text formatting f) = methods.map (Method.text formatting f) :=
  gained.map_eq (fun _ => id) fun _ _ gained => gained.text_eq

theorem ClassDecl.Gains.text_eq {decl decl' : ClassDecl} (gained : decl.Gains decl') :
    (Declaration.classDecl decl').text formatting f =
      (Declaration.classDecl decl).text formatting f := by
  simp only [Declaration.text, Declaration.parts, Declaration.clauses, View.DeclarationParts.text,
    View.DeclarationParts.head, View.DeclarationParts.members]
  cases gained with
  | generics gained => rw [join_written_generics gained]
  | newSupertype none vacant =>
    rw [none]
    simp only [Fragment.ofOptional, TypeRef.written_eq_absent_iff.mpr vacant]
  | supertype given gained =>
    rw [given]
    simp only [Fragment.ofOptional, gained.written_eq f]
  | interfaces gained => rw [join_written_types gained]
  | fields gained => rw [map_text_fields gained]
  | methods gained => rw [map_text_methods gained]
  | javadoc none => exact commented_of_none none

theorem InterfaceDecl.Gains.text_eq {decl decl' : InterfaceDecl} (gained : decl.Gains decl') :
    (Declaration.interfaceDecl decl').text formatting f =
      (Declaration.interfaceDecl decl).text formatting f := by
  simp only [Declaration.text, Declaration.parts, Declaration.clauses, View.DeclarationParts.text,
    View.DeclarationParts.head, View.DeclarationParts.members]
  cases gained with
  | generics gained => rw [join_written_generics gained]
  | supertypes gained => rw [join_written_types gained]
  | fields gained => rw [map_text_fields gained]
  | methods gained => rw [map_text_methods gained]
  | javadoc none => exact commented_of_none none

theorem Declaration.Gains.text_eq {decl decl' : Declaration} (gained : decl.Gains decl') :
    decl'.text formatting f = decl.text formatting f := by
  cases gained with
  | classDecl gained => exact gained.text_eq
  | interfaceDecl gained => exact gained.text_eq

end

theorem Declaration.untyped?_congr {decl decl' : Declaration}
    (fields : decl'.fields.findSome? Field.untyped? = decl.fields.findSome? Field.untyped?)
    (methods : decl'.methods.findSome? Method.untyped? = decl.methods.findSome? Method.untyped?) :
    decl'.untyped? = decl.untyped? := by
  rw [Declaration.untyped?, fields, methods, Declaration.untyped?]

theorem Declaration.Gains.untyped?_eq {decl decl' : Declaration} (gained : decl.Gains decl') :
    decl'.untyped? = decl.untyped? := by
  have fields {fs fs' : List Field} (gained : ListGains .field Field.Gains fs fs') :
      fs'.findSome? Field.untyped? = fs.findSome? Field.untyped? :=
    gained.findSome?_eq (fun _ => id) fun _ _ gained => gained.untyped?_eq
  have methods {ms ms' : List Method} (gained : ListGains .method Method.Gains ms ms') :
      ms'.findSome? Method.untyped? = ms.findSome? Method.untyped? :=
    gained.findSome?_eq (fun _ => id) fun _ _ gained => gained.untyped?_eq
  cases gained with
  | classDecl gained =>
    cases gained with
    | fields gained => exact Declaration.untyped?_congr (fields gained) rfl
    | methods gained => exact Declaration.untyped?_congr rfl (methods gained)
    | _ => rfl
  | interfaceDecl gained =>
    cases gained with
    | fields gained => exact Declaration.untyped?_congr (fields gained) rfl
    | methods gained => exact Declaration.untyped?_congr rfl (methods gained)
    | _ => rfl

theorem Declaration.not_isVacant (decl : Declaration) : ¬ (Node.ofDeclaration decl).IsVacant := by
  cases decl <;> exact id

theorem SourceFile.Gains.written_eq {file file' : SourceFile} (gained : file.Gains file')
    (formatting : Formatting) : file'.written formatting = file.written formatting := by
  cases gained with
  | declarations gained =>
    have texts := gained.map_eq
      (f := Declaration.text formatting (ImportScope.ofFile file).shortName)
      Declaration.not_isVacant fun _ _ gained => gained.text_eq
    exact congrArg (fun texts : List String => fileText formatting file
      (Fragment.join formatting.blankLine (texts.map .present))) texts

theorem SourceFile.Gains.untyped?_eq {file file' : SourceFile} (gained : file.Gains file') :
    file'.untyped? = file.untyped? := by
  cases gained with
  | declarations gained =>
    exact gained.findSome?_eq Declaration.not_isVacant fun _ _ gained => gained.untyped?_eq

/-- The parts of a file that render to nothing are the vacant ones, and a file that gains one of them
renders as before. -/
theorem outcome_file_gains (formatting : Formatting) (scope : ImportScope) :
    let rendered (node : Node) := ((Dialect.java.registry.generator formatting scope).on node).outcome
    (∀ node : Node, node.IsBuiltIn → node.kind ≠ .file →
      (rendered node = .ok .absent ↔ node.IsVacant)) ∧
    ∀ file file' : SourceFile, file.Gains file' → rendered (.file file') = rendered (.file file) := by
  intro rendered
  refine ⟨fun node => java_writesModel.outcome_on_eq_absent_iff formatting scope, ?_⟩
  intro file file' gained
  have outcome := java_writesModel.outcome_on_file formatting scope
  calc rendered (.file file')
      = unlessUntyped file'.untyped? (file'.written formatting) := outcome file'
    _ = unlessUntyped file.untyped? (file.written formatting) := by
        rw [gained.untyped?_eq, gained.written_eq]
    _ = rendered (.file file) := (outcome file).symm

def shopFile (bounds : List TypeRef) (steps : List Statement) : SourceFile where
  name := "Shop.java"
  declarations := [.classDecl {
    name := "Shop"
    methods := [{
      name := "find"
      returns := .mk "List" [.wildcard .extend bounds] 0
      body := some [.composite steps] }] }]

theorem outcome_file_gains_shopFile :
    let rendered (node : Node) :=
      ((Dialect.java.registry.generator .standard .empty).on node).outcome
    let item := TypeRef.ofName "Item"
    let plain := shopFile [item] [.simple "return shelf;"]
    let moreBounds := shopFile [item, .mk "" [.ofName "T"] 1] [.simple "return shelf;"]
    let moreSteps := shopFile [item] [.composite [.composite []], .simple "return shelf;"]
    (rendered (.type (.mk "" [.ofName "T"] 1)) = .ok .absent ∧
      rendered (.statement (.composite [.composite []])) = .ok .absent) ∧
    (plain.Gains moreBounds ∧ rendered (.file moreBounds) = rendered (.file plain)) ∧
    (plain.Gains moreSteps ∧ rendered (.file moreSteps) = rendered (.file plain)) := by
  intro rendered item plain moreBounds moreSteps
  have outcome := outcome_file_gains .standard .empty
  have type : Node.IsVacant (.type (.mk "" [.ofName "T"] 1)) := rfl
  have statement : Node.IsVacant (.statement (.composite [.composite []])) := rfl
  have bounds : plain.Gains moreBounds :=
    .declarations (.within [] [] (.classDecl (.methods (.within [] []
      (.returns (.within [] [] (.insert [item] [] type)))))))
  have steps : plain.Gains moreSteps :=
    .declarations (.within [] [] (.classDecl (.methods (.within [] []
      (.body rfl (.within [] [] (.insert [] [_] statement)))))))
  refine ⟨⟨?_, ?_⟩, ⟨bounds, outcome.2 _ _ bounds⟩, steps, outcome.2 _ _ steps⟩
  · exact (outcome.1 (.type _) trivial (of_decide_eq_true rfl)).mpr type
  · exact (outcome.1 (.statement _) trivial (of_decide_eq_true rfl)).mpr statement

end SourceModel
