namespace SourceModel.Toml

abbrev Reader (α : Type) := List Char → Option (α × List Char)

def isBlank (c : Char) : Bool := c == ' ' || c == '\t'

def isPlain (c : Char) : Bool := c == '\t' || (0x20 ≤ c.toNat && c.toNat != 0x7F)

def skipBlanks (cs : List Char) : List Char := cs.dropWhile isBlank

def afterLineEnd? : List Char → Option (List Char)
  | '\n' :: rest => some rest
  | '\r' :: '\n' :: rest => some rest
  | _ => none

def skipComment : List Char → List Char
  | '#' :: rest => rest.dropWhile isPlain
  | cs => cs

def skipLayout : List Char → List Char
  | ' ' :: rest => skipLayout rest
  | '\t' :: rest => skipLayout rest
  | '\n' :: rest => skipLayout rest
  | '\r' :: '\n' :: rest => skipLayout rest
  | '#' :: rest =>
    have : (rest.dropWhile isPlain).length ≤ rest.length := (List.dropWhile_sublist _).length_le
    skipLayout (rest.dropWhile isPlain)
  | cs => cs
termination_by cs => cs.length

def afterLine? (cs : List Char) : Option (List Char) :=
  match skipComment (skipBlanks cs) with
  | [] => some []
  | rest => afterLineEnd? rest

end SourceModel.Toml
