import SourceModel.View.Members

namespace SourceModel.View

def implementsClause : Joiner := ⟨", ", "implements ", ""⟩

def extendsClause : Joiner := ⟨", ", "extends ", ""⟩

structure DeclarationParts where
  keyword : String
  name : String
  modifiers : OrderedSet Modifier
  generics : List Generic
  fields : List Field
  methods : List Method
  javadoc : Option Javadoc

def DeclarationParts.render (parts : DeclarationParts) (g : Generator) (clauses : List Fragment) :
    Rendering Fragment := do
  let generics ← g.joinEachWith (parts.generics.map .generic) angleBrackets
  let head := Fragment.join " "
    ([modifierList parts.modifiers, .present parts.keyword,
      .present (parts.name ++ generics.textOrEmpty)] ++ clauses)
  let fields ← g.joinEach (parts.fields.map .field) g.formatting.newline
  let methods ← g.joinEach (parts.methods.map .method) g.formatting.blankLine
  let body := Fragment.join g.formatting.blankLine [fields, methods]
  documented g parts.javadoc (head.textOrEmpty ++ " " ++ g.formatting.block body)

def classDecl : View ClassDecl where
  model := "Class"
  ofNode?
    | .classDecl decl => some decl
    | _ => none
  render g decl := do
    let supertype ← g.onOptional (decl.supertype.map .type)
    let interfaces ← g.joinEachWith (decl.interfaces.map .type) implementsClause
    let parts : DeclarationParts :=
      ⟨"class", decl.name, decl.modifiers, decl.generics, decl.fields, decl.methods, decl.javadoc⟩
    parts.render g [supertype.map fun text => "extends " ++ text, interfaces]

def interfaceDecl : View InterfaceDecl where
  model := "Interface"
  ofNode?
    | .interfaceDecl decl => some decl
    | _ => none
  render g decl := do
    let supertypes ← g.joinEachWith (decl.supertypes.map .type) extendsClause
    let parts : DeclarationParts :=
      ⟨"interface", decl.name, decl.modifiers, decl.generics, decl.fields, decl.methods,
       decl.javadoc⟩
    parts.render g [supertypes]

end SourceModel.View
