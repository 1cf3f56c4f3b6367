import SourceModel.Toml.Layout

namespace SourceModel.Toml

def hexDigit? (c : Char) : Option Nat :=
  if c.isDigit then some (c.toNat - '0'.toNat)
  else if 'a' ≤ c && c ≤ 'f' then some (c.toNat - 'a'.toNat + 10)
  else if 'A' ≤ c && c ≤ 'F' then some (c.toNat - 'A'.toNat + 10)
  else none

def readCodePoint (count : Nat) : Reader Char := fun cs =>
  let digits := cs.take count
  if digits.length = count then do
    let values ← digits.mapM hexDigit?
    let point := values.foldl (fun n digit => 16 * n + digit) 0
    if point.isValidChar then some (Char.ofNat point, cs.drop count) else none
  else none

def readEscape : Reader Char
  | 'b' :: rest => some ('\x08', rest)
  | 't' :: rest => some ('\t', rest)
  | 'n' :: rest => some ('\n', rest)
  | 'f' :: rest => some ('\x0c', rest)
  | 'r' :: rest => some ('\r', rest)
  | 'e' :: rest => some ('\x1b', rest)
  | '"' :: rest => some ('"', rest)
  | '\\' :: rest => some ('\\', rest)
  | 'x' :: rest => readCodePoint 2 rest
  | 'u' :: rest => readCodePoint 4 rest
  | 'U' :: rest => readCodePoint 8 rest
  | _ => none

def prepend (c : Char) (read : Option (List Char × List Char)) : Option (List Char × List Char) :=
  read.map fun (text, rest) => (c :: text, rest)

def readQuoted : Nat → Reader (List Char)
  | 0, _ => none
  | _ + 1, [] => none
  | count + 1, c :: rest =>
    if c = '"' then some ([], rest)
    else if c = '\\' then
      match readEscape rest with
      | some (escaped, behind) => prepend escaped (readQuoted count behind)
      | none => none
    else if isPlain c then prepend c (readQuoted count rest)
    else none

def readLiteral : Reader (List Char)
  | [] => none
  | c :: rest =>
    if c = '\'' then some ([], rest)
    else if isPlain c then prepend c (readLiteral rest)
    else none

def skipWhiteSpace : List Char → List Char
  | ' ' :: rest => skipWhiteSpace rest
  | '\t' :: rest => skipWhiteSpace rest
  | '\n' :: rest => skipWhiteSpace rest
  | '\r' :: '\n' :: rest => skipWhiteSpace rest
  | cs => cs

def afterContinuation? (cs : List Char) : Option (List Char) :=
  (afterLineEnd? (skipBlanks cs)).map skipWhiteSpace

/-- The end of a text over several lines, if its closing quotes are here: the quotes that belong to
the text, and what follows. -/
def readClosing (quote : Char) : Reader (List Char) := fun cs =>
  let quotes := (cs.takeWhile (· == quote)).take 5
  if quotes.length < 3 then none else some (quotes.drop 3, cs.drop quotes.length)

def readLines (quote : Char) (escapes : Bool) : Nat → Reader (List Char)
  | 0, _ => none
  | _ + 1, [] => none
  | count + 1, c :: rest =>
    match readClosing quote (c :: rest) with
    | some closing => some closing
    | none =>
      if escapes && c == '\\' then
        match afterContinuation? rest with
        | some behind => readLines quote escapes count behind
        | none =>
          match readEscape rest with
          | some (escaped, behind) => prepend escaped (readLines quote escapes count behind)
          | none => none
      else if c = '\r' then
        match rest with
        | '\n' :: behind =>
          prepend '\r' (prepend '\n' (readLines quote escapes count behind))
        | _ => none
      else if isPlain c || c == '\n' then prepend c (readLines quote escapes count rest)
      else none

def readBlockText (quote : Char) (escapes : Bool) : Reader (List Char) := fun cs =>
  let start := (afterLineEnd? cs).getD cs
  readLines quote escapes (start.length + 1) start

def readLineString : Reader String
  | '"' :: rest => (readQuoted rest.length rest).map fun (text, rest) => (String.ofList text, rest)
  | '\'' :: rest => (readLiteral rest).map fun (text, rest) => (String.ofList text, rest)
  | _ => none

def readString : Reader String
  | '"' :: '"' :: '"' :: rest =>
    (readBlockText '"' true rest).map fun (text, rest) => (String.ofList text, rest)
  | '\'' :: '\'' :: '\'' :: rest =>
    (readBlockText '\'' false rest).map fun (text, rest) => (String.ofList text, rest)
  | cs => readLineString cs

end SourceModel.Toml
