import SourceModel.Model.NodeKind
import SourceModel.Model.SourceFile

namespace SourceModel

/-- A part of a model. The last two forms are for models of a client's own: one with a text and
children, and one that is nothing but its kind. -/
inductive Node
  | file (file : SourceFile)
  | importLine (imported : Import)
  | classDecl (decl : ClassDecl)
  | interfaceDecl (decl : InterfaceDecl)
  | method (method : Method)
  | field (field : Field)
  | parameter (parameter : Parameter)
  | type (type : TypeRef)
  | generic (generic : Generic)
  | statement (statement : Statement)
  | javadoc (javadoc : Javadoc)
  | javadocTag (tag : JavadocTag)
  | custom (kind : NodeKind) (capabilities : List NodeKind) (text : String) (children : List Node)
  | bare (kind : NodeKind)
  deriving Inhabited

namespace Node

def ofDeclaration : Declaration → Node
  | .classDecl decl => .classDecl decl
  | .interfaceDecl decl => .interfaceDecl decl

def kind : Node → NodeKind
  | file _ => .file
  | importLine _ => .importLine
  | classDecl _ => .classDecl
  | interfaceDecl _ => .interfaceDecl
  | method _ => .method
  | field _ => .field
  | parameter _ => .parameter
  | type _ => .type
  | generic _ => .generic
  | statement (.simple _) => .simpleStatement
  | statement (.composite _) => .compositeStatement
  | javadoc _ => .javadoc
  | javadocTag _ => .javadocTag
  | custom kind _ _ _ => kind
  | bare kind => kind

def capabilities : Node → List NodeKind
  | classDecl _ => [.declaration]
  | interfaceDecl _ => [.declaration]
  | statement _ => [.statement]
  | custom _ capabilities _ _ => capabilities
  | _ => []

def lookupKinds (node : Node) : List NodeKind := node.kind :: node.capabilities

end Node

def greatest : List Nat → Nat
  | [] => 0
  | n :: rest => max n (greatest rest)

theorem le_greatest {n : Nat} {ns : List Nat} (h : n ∈ ns) : n ≤ greatest ns := by
  induction ns with
  | nil => cases h
  | cons m rest ih =>
    rcases List.mem_cons.1 h with rfl | h
    · exact Nat.le_max_left _ _
    · exact Nat.le_trans (ih h) (Nat.le_max_right _ _)

def optionalTypeHeight (type : Option TypeRef) : Nat := (type.map TypeRef.height).getD 0

def Javadoc.height (_ : Javadoc) : Nat := 2

def Parameter.height (parameter : Parameter) : Nat := optionalTypeHeight parameter.type + 1

def Field.height (field : Field) : Nat := max (optionalTypeHeight field.type) 2 + 1

def Method.height (method : Method) : Nat :=
  greatest
    [method.returns.height, greatest (method.parameters.map Parameter.height),
     greatest (method.generics.map Generic.height), greatest (method.throws.map TypeRef.height),
     greatest ((method.body.getD []).map Statement.height), 2] + 1

def ClassDecl.height (decl : ClassDecl) : Nat :=
  greatest
    [optionalTypeHeight decl.supertype, greatest (decl.interfaces.map TypeRef.height),
     greatest (decl.generics.map Generic.height), greatest (decl.fields.map Field.height),
     greatest (decl.methods.map Method.height), 2] + 1

def InterfaceDecl.height (decl : InterfaceDecl) : Nat :=
  greatest
    [greatest (decl.supertypes.map TypeRef.height), greatest (decl.generics.map Generic.height),
     greatest (decl.fields.map Field.height), greatest (decl.methods.map Method.height), 2] + 1

def Declaration.height : Declaration → Nat
  | .classDecl decl => decl.height
  | .interfaceDecl decl => decl.height

def SourceFile.height (file : SourceFile) : Nat :=
  max 1 (greatest (file.declarations.map Declaration.height)) + 1

mutual
def Node.height : Node → Nat
  | .file f => f.height
  | .importLine _ => 1
  | .classDecl d => d.height
  | .interfaceDecl d => d.height
  | .method m => m.height
  | .field f => f.height
  | .parameter p => p.height
  | .type t => t.height
  | .generic g => g.height
  | .statement s => s.height
  | .javadoc j => j.height
  | .javadocTag _ => 1
  | .custom _ _ _ children => Node.heightAll children + 1
  | .bare _ => 1
def Node.heightAll : List Node → Nat
  | [] => 0
  | n :: rest => max (Node.height n) (Node.heightAll rest)
end

end SourceModel
