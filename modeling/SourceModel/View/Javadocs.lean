import SourceModel.Generator
import SourceModel.Text.Blank

namespace SourceModel.View

def commentLine (text : String) : String :=
  let trimmed := Text.trimEnd text
  if trimmed = "" then " *" else " * " ++ trimmed

def commentBody (text : String) (tags : List String) : List String :=
  let lines := (Text.lines text).map commentLine
  let tagLines := (tags.flatMap Text.lines).map commentLine
  if lines.isEmpty || tags.isEmpty then lines ++ tagLines else lines ++ " *" :: tagLines

def javadoc : View Javadoc where
  model := "Javadoc"
  ofNode?
    | .javadoc javadoc => some javadoc
    | _ => none
  render g javadoc := do
    let fragments ← Rendering.sequence (g.onEach (javadoc.tags.map .javadocTag))
    let tags := Fragment.texts fragments
    if (Text.lines javadoc.text).isEmpty && tags.isEmpty then pure .absent
    else
      let newline := g.formatting.newline
      pure (.present
        ("/**" ++ newline ++ Text.joinWith newline (commentBody javadoc.text tags) ++ newline ++
          " */"))

def javadocTag : View JavadocTag where
  model := "JavadocTag"
  ofNode?
    | .javadocTag tag => some tag
    | _ => none
  render _ tag :=
    pure (Fragment.join " "
      [.present ("@" ++ tag.name), .ofOption tag.value, .ofOption tag.text])

def documented (g : Generator) (javadoc : Option Javadoc) (text : String) :
    Rendering Fragment := do
  let comment ← g.onOptional (javadoc.map .javadoc)
  pure (Fragment.join g.formatting.newline [comment, .present text])

end SourceModel.View
