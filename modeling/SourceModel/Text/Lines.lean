import SourceModel.Text.Joined

namespace SourceModel.Text

/-- A last line without an end counts if it is not empty, and a carriage return that no line feed
follows belongs to its line. -/
def charLines : List Char → List (List Char)
  | [] => []
  | '\n' :: rest => [] :: charLines rest
  | '\r' :: '\n' :: rest => [] :: charLines rest
  | c :: rest =>
    match charLines rest with
    | [] => [[c]]
    | line :: others => (c :: line) :: others

def lines (text : String) : List String := (charLines text.toList).map String.ofList

end SourceModel.Text
