import SourceModel.Fragment
import SourceModel.Text.Lines

namespace SourceModel

/-- Each line of the text behind the unit, empty lines as they are, with the new separator between
lines. -/
def indented (text unit newline : String) : String :=
  Text.joinWith newline
    ((Text.lines text).map fun line => if line = "" then "" else unit ++ line)

structure Formatting where
  indent : String := "    "
  newline : String := "\n"
  deriving DecidableEq, Repr

namespace Formatting

def standard : Formatting := {}

def blankLine (formatting : Formatting) : String := formatting.newline ++ formatting.newline

def indentText (formatting : Formatting) (text : String) : String :=
  indented text formatting.indent formatting.newline

def block (formatting : Formatting) : Fragment → String
  | .present text =>
    "\x7b" ++ formatting.newline ++ formatting.indentText text ++ formatting.newline ++ "\x7d"
  | .absent => "\x7b" ++ formatting.newline ++ "\x7d"

end Formatting

end SourceModel
