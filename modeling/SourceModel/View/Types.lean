import SourceModel.Generator

namespace SourceModel.View

def angleBrackets : Joiner := ⟨", ", "<", ">"⟩

def type : View TypeRef where
  model := "Type"
  ofNode?
    | .type type => some type
    | _ => none
  render g type :=
    if type.name = "" then pure .absent
    else do
      let arguments ← g.joinEachWith (type.arguments.map .generic) angleBrackets
      pure (.present
        (g.scope.shortName type.name ++ arguments.textOrEmpty ++
          Text.repeated "[]" type.dimensions))

def generic : View Generic where
  model := "Generic"
  ofNode?
    | .generic generic => some generic
    | _ => none
  render g generic := do
    let bounds ← g.joinEach (generic.bounds.map .type) " & "
    match generic.lower with
    | none => pure bounds
    | some lower =>
      pure (Fragment.join " "
        [.present lower, bounds.map fun text => generic.keyword.name ++ " " ++ text])

end SourceModel.View
