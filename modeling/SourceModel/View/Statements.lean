import SourceModel.Generator

namespace SourceModel.View

def statement : View Statement where
  model := "Statement"
  ofNode?
    | .statement statement => some statement
    | _ => none
  render g
    | .simple text => pure (.present text)
    | .composite children => g.joinEach (children.map .statement) ""

end SourceModel.View
