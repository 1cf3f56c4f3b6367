import SourceModel.Model.Member

namespace SourceModel

structure ClassDecl where
  name : String
  modifiers : OrderedSet Modifier := ∅
  generics : List Generic := []
  supertype : Option TypeRef := none
  interfaces : List TypeRef := []
  fields : List Field := []
  methods : List Method := []
  javadoc : Option Javadoc := none
  deriving Inhabited

structure InterfaceDecl where
  name : String
  modifiers : OrderedSet Modifier := ∅
  generics : List Generic := []
  supertypes : List TypeRef := []
  fields : List Field := []
  methods : List Method := []
  javadoc : Option Javadoc := none
  deriving Inhabited

inductive Declaration
  | classDecl (decl : ClassDecl)
  | interfaceDecl (decl : InterfaceDecl)
  deriving Inhabited

namespace Declaration

def fields : Declaration → List Field
  | classDecl decl => decl.fields
  | interfaceDecl decl => decl.fields

def methods : Declaration → List Method
  | classDecl decl => decl.methods
  | interfaceDecl decl => decl.methods

end Declaration

end SourceModel
