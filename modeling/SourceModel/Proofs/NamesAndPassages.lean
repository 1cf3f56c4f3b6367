import SourceModel.Proofs.Layout
import SourceModel.Proofs.ModelText

/-!
# Names and passages

The strings of a model are names, which stand within a line, and passages, which may span lines:
the texts of statements, initializers and documentation comments. Whatever the built-in views write
around names alone has no line break if no name has one.
-/

namespace SourceModel

open Text (Spelled Unbroken ReturnFree)

/-! ## The strings of a model -/

mutual
def TypeRef.names : TypeRef → List String
  | .mk name arguments _ => name :: TypeRef.argumentNames arguments
def TypeRef.argumentNames : List Generic → List String
  | [] => []
  | g :: gs => Generic.names g ++ TypeRef.argumentNames gs
def Generic.names : Generic → List String
  | .mk lower bounds _ => lower.toList ++ Generic.boundNames bounds
def Generic.boundNames : List TypeRef → List String
  | [] => []
  | t :: ts => TypeRef.names t ++ Generic.boundNames ts
end

def Parameter.names (parameter : Parameter) : List String :=
  parameter.name :: parameter.type.toList.flatMap TypeRef.names

def Field.names (field : Field) : List String :=
  field.name :: field.type.toList.flatMap TypeRef.names

def Method.names (method : Method) : List String :=
  method.name :: method.returns.names ++ method.generics.flatMap Generic.names ++
    method.parameters.flatMap Parameter.names ++ method.throws.flatMap TypeRef.names

namespace Declaration

def supertypes : Declaration → List TypeRef
  | .classDecl decl => decl.supertype.toList ++ decl.interfaces
  | .interfaceDecl decl => decl.supertypes

def names (decl : Declaration) : List String :=
  decl.parts.name :: decl.parts.generics.flatMap Generic.names ++
    decl.supertypes.flatMap TypeRef.names ++ decl.fields.flatMap Field.names ++
    decl.methods.flatMap Method.names

end Declaration

def Import.names (imported : Import) : List String :=
  imported.type.names ++ imported.member.toList

def SourceFile.names (file : SourceFile) : List String :=
  file.name :: file.imports.toList.flatMap Import.names ++
    file.declarations.flatMap Declaration.names

mutual
def Statement.passages : Statement → List String
  | .simple text => [text]
  | .composite children => Statement.childPassages children
def Statement.childPassages : List Statement → List String
  | [] => []
  | s :: rest => Statement.passages s ++ Statement.childPassages rest
end

def JavadocTag.passages (tag : JavadocTag) : List String :=
  tag.name :: tag.value.toList ++ tag.text.toList

def Javadoc.passages (javadoc : Javadoc) : List String :=
  javadoc.text :: javadoc.tags.flatMap JavadocTag.passages

def Field.passages (field : Field) : List String :=
  field.initializer.toList ++ field.javadoc.toList.flatMap Javadoc.passages

def Method.passages (method : Method) : List String :=
  (method.body.getD []).flatMap Statement.passages ++
    method.javadoc.toList.flatMap Javadoc.passages

def Declaration.passages (decl : Declaration) : List String :=
  decl.fields.flatMap Field.passages ++ decl.methods.flatMap Method.passages ++
    decl.parts.javadoc.toList.flatMap Javadoc.passages

def SourceFile.passages (file : SourceFile) : List String :=
  file.declarations.flatMap Declaration.passages

/-! ## Fragments of certain characters -/

def Fragment.Spelled (allowed : Char → Prop) (fragment : Fragment) : Prop :=
  ∀ text, fragment = .present text → Text.Spelled allowed text

abbrev Fragment.Unbroken : Fragment → Prop := Fragment.Spelled fun c => c ≠ '\n' ∧ c ≠ '\r'

namespace Fragment.Spelled

variable {allowed : Char → Prop} {fragment : Fragment}

theorem absent : Fragment.Spelled allowed .absent := by
  intro text eq
  cases eq

theorem present {text : String} (spelled : Text.Spelled allowed text) :
    Fragment.Spelled allowed (.present text) := by
  rintro _ ⟨⟩
  exact spelled

theorem textOrEmpty (spelled : fragment.Spelled allowed) :
    Text.Spelled allowed fragment.textOrEmpty := by
  cases fragment with
  | absent => exact Text.Spelled.empty
  | present text => exact spelled text rfl

theorem ofOption {text : Option String} (each : ∀ s ∈ text.toList, Text.Spelled allowed s) :
    Fragment.Spelled allowed (.ofOption text) := by
  cases text with
  | none => exact absent
  | some text => exact present (each text (by simp))

theorem ofOptional {α : Type} {write : α → Fragment} {a : Option α}
    (each : ∀ x ∈ a.toList, (write x).Spelled allowed) :
    Fragment.Spelled allowed (.ofOptional write a) := by
  cases a with
  | none => exact absent
  | some a => exact each a (by simp)

theorem map_append {before : String} (first : Text.Spelled allowed before)
    (spelled : fragment.Spelled allowed) :
    (fragment.map fun text => before ++ text).Spelled allowed := by
  cases fragment with
  | absent => exact absent
  | present text => exact present (first.append (spelled text rfl))

theorem joiner {joiner : Joiner} (separator : Text.Spelled allowed joiner.separator)
    (opening : Text.Spelled allowed joiner.opening) (closing : Text.Spelled allowed joiner.closing)
    {fragments : List Fragment} (each : ∀ fragment ∈ fragments, fragment.Spelled allowed) :
    (joiner.join fragments).Spelled allowed := by
  have texts : ∀ text ∈ Fragment.texts fragments, Text.Spelled allowed text := by
    intro text mem
    obtain ⟨fragment, mem, eq⟩ := List.mem_filterMap.mp mem
    cases fragment with
    | absent => cases eq
    | present own => exact each _ mem text (congrArg _ (Option.some.inj eq))
  unfold Joiner.join
  split
  · exact absent
  · rename_i first
    rw [first] at texts
    exact present ((opening.append (separator.joinWith texts)).append closing)

theorem join {separator : String} (spelled : Text.Spelled allowed separator)
    {fragments : List Fragment} (each : ∀ fragment ∈ fragments, fragment.Spelled allowed) :
    (Fragment.join separator fragments).Spelled allowed :=
  joiner spelled Text.Spelled.empty Text.Spelled.empty each

end Fragment.Spelled

/-! ## What is written around names -/

def KeepsUnbroken (f : String → String) : Prop := ∀ name, Unbroken name → Unbroken (f name)

theorem View.unbroken_angleBrackets {fragments : List Fragment}
    (each : ∀ fragment ∈ fragments, fragment.Unbroken) :
    (View.angleBrackets.join fragments).Unbroken :=
  .joiner (by decide) (by decide) (by decide) each

variable {f : String → String}

mutual
theorem TypeRef.unbroken_written (keeps : KeepsUnbroken f) :
    ∀ t : TypeRef, (∀ name ∈ t.names, Unbroken name) → (t.written f).Unbroken
  | .mk name arguments dimensions, unbroken => by
    rw [TypeRef.names, List.forall_mem_cons] at unbroken
    have list := TypeRef.unbroken_writtenArguments keeps arguments unbroken.2
    have joined : (View.angleBrackets.join (TypeRef.writtenArguments f arguments)).Unbroken :=
      View.unbroken_angleBrackets list
    have brackets : Unbroken (Text.repeated "[]" dimensions) :=
      Spelled.repeated (by decide) dimensions
    rw [TypeRef.written]
    split
    · exact .absent
    · exact .present (((keeps name unbroken.1).append joined.textOrEmpty).append brackets)
theorem TypeRef.unbroken_writtenArguments (keeps : KeepsUnbroken f) : ∀ gs : List Generic,
    (∀ name ∈ TypeRef.argumentNames gs, Unbroken name) →
    ∀ fragment ∈ TypeRef.writtenArguments f gs, fragment.Unbroken
  | [], _ => by
    intro fragment mem
    cases mem
  | g :: gs, unbroken => by
    rw [TypeRef.argumentNames, List.forall_mem_append] at unbroken
    rw [TypeRef.writtenArguments, List.forall_mem_cons]
    exact ⟨Generic.unbroken_written keeps g unbroken.1,
      TypeRef.unbroken_writtenArguments keeps gs unbroken.2⟩
theorem Generic.unbroken_written (keeps : KeepsUnbroken f) :
    ∀ g : Generic, (∀ name ∈ g.names, Unbroken name) → (g.written f).Unbroken
  | .mk lower bounds keyword, unbroken => by
    rw [Generic.names, List.forall_mem_append] at unbroken
    have list := Generic.unbroken_writtenBounds keeps bounds unbroken.2
    have upper : (Fragment.join " & " (Generic.writtenBounds f bounds)).Unbroken :=
      .join (by decide) list
    have word : Unbroken (keyword.name ++ " ") := by cases keyword <;> decide
    cases lower with
    | none => exact upper
    | some lower =>
      refine .join (by decide) ?_
      rw [List.forall_mem_cons, List.forall_mem_singleton]
      exact ⟨.present (unbroken.1 lower (by simp)), .map_append word upper⟩
theorem Generic.unbroken_writtenBounds (keeps : KeepsUnbroken f) : ∀ ts : List TypeRef,
    (∀ name ∈ Generic.boundNames ts, Unbroken name) →
    ∀ fragment ∈ Generic.writtenBounds f ts, fragment.Unbroken
  | [], _ => by
    intro fragment mem
    cases mem
  | t :: ts, unbroken => by
    rw [Generic.boundNames, List.forall_mem_append] at unbroken
    rw [Generic.writtenBounds, List.forall_mem_cons]
    exact ⟨TypeRef.unbroken_written keeps t unbroken.1,
      Generic.unbroken_writtenBounds keeps ts unbroken.2⟩
end

theorem unbroken_map {α : Type} {names : α → List String} {write : α → Fragment}
    (each : ∀ a, (∀ name ∈ names a, Unbroken name) → (write a).Unbroken) {parts : List α}
    (unbroken : ∀ name ∈ parts.flatMap names, Unbroken name) :
    ∀ fragment ∈ parts.map write, fragment.Unbroken := by
  rw [List.forall_mem_flatMap] at unbroken
  rw [List.forall_mem_map]
  intro a mem
  exact each a (unbroken a mem)

theorem unbroken_optionalType (keeps : KeepsUnbroken f) {type : Option TypeRef}
    (unbroken : ∀ name ∈ type.toList.flatMap TypeRef.names, Unbroken name) :
    (Fragment.ofOptional (TypeRef.written f) type).Unbroken := by
  rw [List.forall_mem_flatMap] at unbroken
  apply Fragment.Spelled.ofOptional
  intro t mem
  exact t.unbroken_written keeps (unbroken t mem)

theorem View.unbroken_modifierList (modifiers : OrderedSet Modifier) :
    (View.modifierList modifiers).Unbroken := by
  refine .join (by decide) ?_
  intro fragment mem
  obtain ⟨modifier, -, rfl⟩ := List.mem_map.mp mem
  refine .present ?_
  cases modifier <;> decide

theorem unbroken_typedName (keeps : KeepsUnbroken f) (modifiers : OrderedSet Modifier)
    {type : Option TypeRef} {name : String}
    (unbroken : ∀ n ∈ name :: type.toList.flatMap TypeRef.names, Unbroken n) :
    Fragment.Unbroken (Fragment.join " "
      [View.modifierList modifiers, .ofOptional (TypeRef.written f) type, .present name]) := by
  rw [List.forall_mem_cons] at unbroken
  refine .join (by decide) ?_
  rw [List.forall_mem_cons, List.forall_mem_cons, List.forall_mem_singleton]
  exact ⟨View.unbroken_modifierList modifiers, unbroken_optionalType keeps unbroken.2,
    .present unbroken.1⟩

theorem Parameter.unbroken_written (keeps : KeepsUnbroken f) (parameter : Parameter)
    (unbroken : ∀ name ∈ parameter.names, Unbroken name) : (parameter.written f).Unbroken :=
  unbroken_typedName keeps parameter.modifiers unbroken

theorem Method.unbroken_head (keeps : KeepsUnbroken f) (method : Method)
    (unbroken : ∀ name ∈ method.names, Unbroken name) : Unbroken (method.head f) := by
  simp only [Method.names, List.forall_mem_append, List.forall_mem_cons] at unbroken
  obtain ⟨⟨⟨⟨name, returns⟩, generics⟩, parameters⟩, throws⟩ := unbroken
  have genericList : (View.angleBrackets.join (method.generics.map (Generic.written f))).Unbroken :=
    View.unbroken_angleBrackets (unbroken_map (Generic.unbroken_written keeps) generics)
  have parameterList :
      (Fragment.join ", " (method.parameters.map (Parameter.written f))).Unbroken :=
    .join (by decide) (unbroken_map (Parameter.unbroken_written keeps) parameters)
  have throwsList : (View.throwsClause.join (method.throws.map (TypeRef.written f))).Unbroken :=
    .joiner (by decide) (by decide) (by decide)
      (unbroken_map (TypeRef.unbroken_written keeps) throws)
  have signature : Unbroken (method.name ++ "(" ++
      (Fragment.join ", " (method.parameters.map (Parameter.written f))).textOrEmpty ++ ")") :=
    ((name.append (by decide)).append parameterList.textOrEmpty).append (by decide)
  refine Fragment.Spelled.textOrEmpty (.join (by decide) ?_)
  rw [List.forall_mem_cons, List.forall_mem_cons, List.forall_mem_cons, List.forall_mem_cons,
    List.forall_mem_singleton]
  exact ⟨View.unbroken_modifierList _, genericList,
    TypeRef.unbroken_written keeps _ returns, .present signature, throwsList⟩

theorem Declaration.unbroken_clauses (keeps : KeepsUnbroken f) (decl : Declaration)
    (unbroken : ∀ name ∈ decl.supertypes.flatMap TypeRef.names, Unbroken name) :
    ∀ clause ∈ decl.clauses f, clause.Unbroken := by
  cases decl with
  | classDecl decl =>
    simp only [supertypes, List.flatMap_append, List.forall_mem_append] at unbroken
    rw [clauses, List.forall_mem_cons, List.forall_mem_singleton]
    constructor
    · exact .map_append (by decide) (unbroken_optionalType keeps unbroken.1)
    · exact .joiner (by decide) (by decide) (by decide)
        (unbroken_map (TypeRef.unbroken_written keeps) unbroken.2)
  | interfaceDecl decl =>
    rw [clauses, List.forall_mem_singleton]
    exact .joiner (by decide) (by decide) (by decide)
      (unbroken_map (TypeRef.unbroken_written keeps) unbroken)

theorem Declaration.unbroken_keyword (decl : Declaration) : Unbroken decl.parts.keyword := by
  cases decl with
  | classDecl _ => exact (by decide : Unbroken "class")
  | interfaceDecl _ => exact (by decide : Unbroken "interface")

theorem Declaration.unbroken_head (keeps : KeepsUnbroken f) (decl : Declaration)
    (unbroken : ∀ name ∈ decl.names, Unbroken name) :
    Unbroken (decl.parts.head f (decl.clauses f)) := by
  simp only [Declaration.names, List.forall_mem_append, List.forall_mem_cons] at unbroken
  obtain ⟨⟨⟨⟨name, generics⟩, supertypes⟩, -⟩, -⟩ := unbroken
  have genericList :
      (View.angleBrackets.join (decl.parts.generics.map (Generic.written f))).Unbroken :=
    View.unbroken_angleBrackets (unbroken_map (Generic.unbroken_written keeps) generics)
  refine Fragment.Spelled.textOrEmpty (.join (by decide) ?_)
  rw [List.forall_mem_append, List.forall_mem_cons, List.forall_mem_cons,
    List.forall_mem_singleton]
  exact ⟨⟨View.unbroken_modifierList _, .present decl.unbroken_keyword,
    .present (name.append genericList.textOrEmpty)⟩, decl.unbroken_clauses keeps supertypes⟩

/-! ## What is written around passages -/

theorem Field.spelled_line (keeps : KeepsUnbroken f) (field : Field)
    (unbroken : ∀ name ∈ field.names, Unbroken name) {allowed : Char → Prop}
    (allows : ∀ c, c ≠ '\n' ∧ c ≠ '\r' → allowed c)
    (initializer : ∀ own ∈ field.initializer.toList, Spelled allowed own) :
    Spelled allowed (field.line f) := by
  have plain {text : String} (unbroken : Unbroken text) : Spelled allowed text :=
    fun c mem => allows c (unbroken c mem)
  have declaration := unbroken_typedName keeps field.modifiers unbroken
  refine ((plain declaration.textOrEmpty).append ?_).append (plain (by decide))
  cases given : field.initializer with
  | none => exact Text.Spelled.empty
  | some own => exact (plain (by decide)).append (initializer own (by simp [given]))

mutual
theorem Statement.returnFree_written : ∀ s : Statement,
    (∀ passage ∈ s.passages, ReturnFree passage) → s.written.Spelled fun c => c ≠ '\r'
  | .simple text, free => by
    rw [Statement.passages, List.forall_mem_singleton] at free
    exact .present free
  | .composite children, free =>
    .join Text.Spelled.empty (Statement.returnFree_writtenAll children free)
theorem Statement.returnFree_writtenAll : ∀ ss : List Statement,
    (∀ passage ∈ Statement.childPassages ss, ReturnFree passage) →
    ∀ fragment ∈ Statement.writtenAll ss, fragment.Spelled fun c => c ≠ '\r'
  | [], _ => by
    intro fragment mem
    cases mem
  | s :: rest, free => by
    rw [Statement.childPassages, List.forall_mem_append] at free
    rw [Statement.writtenAll, List.forall_mem_cons]
    exact ⟨Statement.returnFree_written s free.1, Statement.returnFree_writtenAll rest free.2⟩
end

theorem JavadocTag.returnFree_written (tag : JavadocTag)
    (free : ∀ passage ∈ tag.passages, ReturnFree passage) :
    tag.written.Spelled fun c => c ≠ '\r' := by
  simp only [JavadocTag.passages, List.forall_mem_append, List.forall_mem_cons] at free
  obtain ⟨⟨name, value⟩, text⟩ := free
  refine .join (by decide) ?_
  rw [List.forall_mem_cons, List.forall_mem_cons, List.forall_mem_singleton]
  exact ⟨.present (Text.Spelled.append (by decide) name), .ofOption value, .ofOption text⟩

/-! ## Names made from names -/

theorem keepsUnbroken_simpleName : KeepsUnbroken simpleName := by
  intro name unbroken
  unfold simpleName
  split
  · rename_i before after split
    have spelled := (Text.eq_of_splitLast? split).1
    intro c mem
    apply unbroken
    rw [spelled]
    simp_all
  · exact unbroken

theorem keepsUnbroken_shortName (scope : ImportScope) : KeepsUnbroken scope.shortName := by
  intro name unbroken
  unfold ImportScope.shortName
  split
  · exact keepsUnbroken_simpleName name unbroken
  · exact unbroken

theorem Text.mem_of_mem_splitAll {separator c : Char} {piece cs : List Char}
    (own : piece ∈ splitAll separator cs) (mem : c ∈ piece) : c ∈ cs := by
  induction cs generalizing piece with
  | nil =>
    obtain rfl : piece = [] := by simpa [splitAll] using own
    cases mem
  | cons first rest ih =>
    unfold splitAll at own
    split at own
    · rcases List.mem_cons.mp own with rfl | own
      · cases mem
      · exact List.mem_cons_of_mem _ (ih own mem)
    · cases pieces : splitAll separator rest with
      | nil => exact absurd pieces (splitAll_ne_nil _ _)
      | cons next others =>
        rw [pieces] at own ih
        rcases List.mem_cons.mp own with rfl | own
        · rcases List.mem_cons.mp mem with rfl | mem
          · exact List.mem_cons_self
          · exact List.mem_cons_of_mem _ (ih List.mem_cons_self mem)
        · exact List.mem_cons_of_mem _ (ih (List.mem_cons_of_mem _ own) mem)

theorem SourceFile.unbroken_directories {name : String} (unbroken : Unbroken name) :
    ∀ directory ∈ directories name, Unbroken directory := by
  intro directory mem
  unfold directories at mem
  split at mem
  · cases mem
  · rename_i path rest split
    have whole := (Text.eq_of_splitLast? split).1
    obtain ⟨piece, kept, rfl⟩ := List.mem_map.mp mem
    have own := (List.mem_filter.mp kept).1
    intro c inPiece
    have inPath : c ∈ path := Text.mem_of_mem_splitAll own (by simpa using inPiece)
    have inName : c ∈ name.toList.map fun c => if c = '\\' then '/' else c := by
      rw [whole]
      exact List.mem_append_left _ inPath
    obtain ⟨d, given, rfl⟩ := List.mem_map.mp inName
    split
    · exact ⟨by decide, by decide⟩
    · exact unbroken d given

theorem SourceFile.unbroken_package {file : SourceFile} (unbroken : Unbroken file.name)
    {package : String} (declared : file.package? = some package) : Unbroken package := by
  have joined : Unbroken (Text.joinWith "." (directories file.name)) :=
    Spelled.joinWith (by decide) (unbroken_directories unbroken)
  simp only [package?] at declared
  split at declared
  · cases declared
  · cases declared
    exact joined

theorem Import.unbroken_text (imported : Import)
    (unbroken : ∀ name ∈ imported.names, Unbroken name) : Unbroken (importText imported) := by
  rw [Import.names, List.forall_mem_append] at unbroken
  obtain ⟨type, member⟩ := unbroken
  have name : Unbroken imported.type.name := by
    apply type
    cases imported.type
    exact List.mem_cons_self
  unfold importText
  split
  · rename_i own given
    have last : Unbroken own := member own (by simp [given])
    have words : Unbroken "import static " := by decide
    exact (((words.append name).append (by decide)).append last).append (by decide)
  · have word : Unbroken "import " := by decide
    exact (word.append name).append (by decide)

theorem SourceFile.unbroken_importBlock {file : SourceFile}
    (unbroken : ∀ name ∈ file.names, Unbroken name) :
    ∀ line ∈ importBlock file, Unbroken line := by
  simp only [names, List.forall_mem_append, List.forall_mem_cons, List.forall_mem_flatMap]
    at unbroken
  obtain ⟨⟨-, imports⟩, -⟩ := unbroken
  intro line mem
  rw [importBlock, OrderedSet.mem_toList_ofList] at mem
  obtain ⟨imported, kept, rfl⟩ := List.mem_map.mp mem
  have present := (List.mem_filter.mp kept).1
  exact imported.unbroken_text (imports imported present)

end SourceModel
