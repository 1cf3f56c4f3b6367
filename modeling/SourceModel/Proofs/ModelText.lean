import SourceModel.Proofs.ImportBlock
import SourceModel.Proofs.TypeText

/-!
# The text of models

What the built-in views write, as functions of the model alone, and the one thing that keeps them
from it: a field or a parameter without a type. A registry that finds those views ends, at any
depth that the node does not exceed, in the text or in the error that names the first such part
(`WritesModel.outcome_file` and its companions for the parts of a file).
-/

namespace SourceModel

def Fragment.ofOptional {α : Type} (write : α → Fragment) : Option α → Fragment
  | none => .absent
  | some a => write a

mutual
def Statement.written : Statement → Fragment
  | .simple text => .present text
  | .composite children => Fragment.join "" (Statement.writtenAll children)
def Statement.writtenAll : List Statement → List Fragment
  | [] => []
  | s :: rest => Statement.written s :: Statement.writtenAll rest
end

def JavadocTag.written (tag : JavadocTag) : Fragment :=
  Fragment.join " " [.present ("@" ++ tag.name), .ofOption tag.value, .ofOption tag.text]

def Javadoc.tagTexts (javadoc : Javadoc) : List String :=
  Fragment.texts (javadoc.tags.map JavadocTag.written)

def Javadoc.written (newline : String) (javadoc : Javadoc) : Fragment :=
  if (Text.lines javadoc.text).isEmpty && javadoc.tagTexts.isEmpty then .absent
  else .present
    ("/**" ++ newline ++
      Text.joinWith newline (View.commentBody javadoc.text javadoc.tagTexts) ++ newline ++ " */")

def commented (newline : String) (javadoc : Option Javadoc) (text : String) : String :=
  match Fragment.ofOptional (Javadoc.written newline) javadoc with
  | .absent => text
  | .present comment => comment ++ newline ++ text

section
variable (formatting : Formatting) (f : String → String)

def Parameter.written (parameter : Parameter) : Fragment :=
  Fragment.join " "
    [View.modifierList parameter.modifiers, .ofOptional (TypeRef.written f) parameter.type,
     .present parameter.name]

def Field.line (field : Field) : String :=
  (Fragment.join " "
    [View.modifierList field.modifiers, .ofOptional (TypeRef.written f) field.type,
     .present field.name]).textOrEmpty ++
  (match field.initializer with
    | some initializer => " = " ++ initializer
    | none => "") ++ ";"

def Field.text (field : Field) : String :=
  commented formatting.newline field.javadoc (field.line f)

def Method.head (method : Method) : String :=
  (Fragment.join " "
    [View.modifierList method.modifiers,
     View.angleBrackets.join (method.generics.map (Generic.written f)),
     method.returns.written f,
     .present (method.name ++ "(" ++
       (Fragment.join ", " (method.parameters.map (Parameter.written f))).textOrEmpty ++ ")"),
     View.throwsClause.join (method.throws.map (TypeRef.written f))]).textOrEmpty

def Method.text (method : Method) : String :=
  commented formatting.newline method.javadoc
    (match method.body with
    | none => method.head f ++ ";"
    | some statements =>
      method.head f ++ " " ++
        formatting.block (Fragment.join formatting.newline (statements.map Statement.written)))

end

namespace View.DeclarationParts

variable (formatting : Formatting) (f : String → String)

def head (parts : DeclarationParts) (clauses : List Fragment) : String :=
  (Fragment.join " "
    ([modifierList parts.modifiers, .present parts.keyword,
      .present (parts.name ++
        (angleBrackets.join (parts.generics.map (Generic.written f))).textOrEmpty)] ++
      clauses)).textOrEmpty

def members (parts : DeclarationParts) : Fragment :=
  Fragment.join formatting.blankLine
    [Fragment.join formatting.newline
      ((parts.fields.map (Field.text formatting f)).map .present),
     Fragment.join formatting.blankLine
      ((parts.methods.map (Method.text formatting f)).map .present)]

def text (parts : DeclarationParts) (clauses : List Fragment) : String :=
  commented formatting.newline parts.javadoc
    (parts.head f clauses ++ " " ++ formatting.block (parts.members formatting f))

end View.DeclarationParts

namespace Declaration

def parts : Declaration → View.DeclarationParts
  | .classDecl decl =>
    ⟨"class", decl.name, decl.modifiers, decl.generics, decl.fields, decl.methods, decl.javadoc⟩
  | .interfaceDecl decl =>
    ⟨"interface", decl.name, decl.modifiers, decl.generics, decl.fields, decl.methods,
     decl.javadoc⟩

def clauses (f : String → String) : Declaration → List Fragment
  | .classDecl decl =>
    [(Fragment.ofOptional (TypeRef.written f) decl.supertype).map fun text => "extends " ++ text,
     View.implementsClause.join (decl.interfaces.map (TypeRef.written f))]
  | .interfaceDecl decl => [View.extendsClause.join (decl.supertypes.map (TypeRef.written f))]

def text (formatting : Formatting) (f : String → String) (decl : Declaration) : String :=
  decl.parts.text formatting f (decl.clauses f)

end Declaration

def SourceFile.written (formatting : Formatting) (file : SourceFile) : Fragment :=
  fileText formatting file
    (Fragment.join formatting.blankLine
      ((file.declarations.map
        (Declaration.text formatting (ImportScope.ofFile file).shortName)).map .present))

def Field.untyped? (field : Field) : Option NodeKind :=
  if field.type.isNone then some .field else none

def Parameter.untyped? (parameter : Parameter) : Option NodeKind :=
  if parameter.type.isNone then some .parameter else none

def Method.untyped? (method : Method) : Option NodeKind :=
  method.parameters.findSome? Parameter.untyped?

def Declaration.untyped? (decl : Declaration) : Option NodeKind :=
  (decl.fields.findSome? Field.untyped?).or (decl.methods.findSome? Method.untyped?)

def SourceFile.untyped? (file : SourceFile) : Option NodeKind :=
  file.declarations.findSome? Declaration.untyped?

def Node.untyped? : Node → Option NodeKind
  | .file f => f.untyped?
  | .classDecl d => (Declaration.classDecl d).untyped?
  | .interfaceDecl d => (Declaration.interfaceDecl d).untyped?
  | .method m => m.untyped?
  | .field f => f.untyped?
  | .parameter p => p.untyped?
  | _ => none

def Node.IsBuiltIn : Node → Prop
  | .custom _ _ _ _ => False
  | .bare _ => False
  | _ => True

def unlessUntyped {α : Type} (untyped : Option NodeKind) (a : α) : Except RenderError α :=
  match untyped with
  | none => .ok a
  | some owner => .error (.missing owner "type")

namespace Rendering

variable {α β ι : Type}

theorem outcome_bind_unlessUntyped {first : Rendering α} {next : α → Rendering β}
    {untyped untyped' : Option NodeKind} {a : α} {b : β}
    (ended : first.outcome = unlessUntyped untyped a)
    (continued : (next a).outcome = unlessUntyped untyped' b) :
    (first >>= next).outcome = unlessUntyped (untyped.or untyped') b := by
  cases untyped with
  | none => rw [outcome_bind_ok ended, continued]; rfl
  | some owner => rw [outcome_bind, ended]; rfl

theorem outcome_bind_unlessUntyped_ok {first : Rendering α} {next : α → Rendering β}
    {untyped : Option NodeKind} {a : α} {b : β}
    (ended : first.outcome = unlessUntyped untyped a) (continued : (next a).outcome = .ok b) :
    (first >>= next).outcome = unlessUntyped untyped b := by
  have outcome : (first >>= next).outcome = unlessUntyped (untyped.or none) b :=
    outcome_bind_unlessUntyped ended continued
  rwa [Option.or_none] at outcome

theorem outcome_sequence_unlessUntyped {render : ι → Rendering α} {untyped : ι → Option NodeKind}
    {result : ι → α} {items : List ι}
    (each : ∀ item ∈ items, (render item).outcome = unlessUntyped (untyped item) (result item)) :
    (sequence (items.map render)).outcome =
      unlessUntyped (items.findSome? untyped) (items.map result) := by
  induction items with
  | nil => rfl
  | cons item rest ih =>
    have first := each item List.mem_cons_self
    have others := ih fun item mem => each item (List.mem_cons_of_mem _ mem)
    rw [List.map_cons, sequence, List.findSome?_cons]
    cases missing : untyped item with
    | some owner =>
      rw [missing] at first
      rw [outcome_bind, first]
      rfl
    | none =>
      rw [missing] at first
      rw [outcome_bind_ok first, outcome_bind, others]
      cases rest.findSome? untyped <;> rfl

end Rendering

end SourceModel
