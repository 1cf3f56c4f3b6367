import SourceModel.View.Javadocs
import SourceModel.View.Types

namespace SourceModel.View

def modifierList (modifiers : OrderedSet Modifier) : Fragment :=
  Fragment.join " " (modifiers.toList.map fun modifier => .present modifier.keyword)

def throwsClause : Joiner := ⟨", ", "throws ", ""⟩

def field : View Field where
  model := "Field"
  ofNode?
    | .field field => some field
    | _ => none
  render g field := do
    let type ← g.onRequired (field.type.map .type) .field "type"
    let declaration :=
      Fragment.join " " [modifierList field.modifiers, type, .present field.name]
    let initializer := match field.initializer with
      | some initializer => " = " ++ initializer
      | none => ""
    documented g field.javadoc (declaration.textOrEmpty ++ initializer ++ ";")

def parameter : View Parameter where
  model := "Parameter"
  ofNode?
    | .parameter parameter => some parameter
    | _ => none
  render g parameter := do
    let type ← g.onRequired (parameter.type.map .type) .parameter "type"
    pure (Fragment.join " " [modifierList parameter.modifiers, type, .present parameter.name])

def method : View Method where
  model := "Method"
  ofNode?
    | .method method => some method
    | _ => none
  render g method := do
    let parameters ← g.joinEach (method.parameters.map .parameter) ", "
    let generics ← g.joinEachWith (method.generics.map .generic) angleBrackets
    let returns ← g.on (.type method.returns)
    let throws ← g.joinEachWith (method.throws.map .type) throwsClause
    let head := Fragment.join " "
      [modifierList method.modifiers, generics, returns,
       .present (method.name ++ "(" ++ parameters.textOrEmpty ++ ")"), throws]
    match method.body with
    | none => documented g method.javadoc (head.textOrEmpty ++ ";")
    | some statements =>
      let body ← g.joinEach (statements.map .statement) g.formatting.newline
      documented g method.javadoc (head.textOrEmpty ++ " " ++ g.formatting.block body)

end SourceModel.View
