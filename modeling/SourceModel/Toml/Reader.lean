import SourceModel.Toml.DateTimes
import SourceModel.Toml.Numbers
import SourceModel.Toml.Table

namespace SourceModel.Toml

def endsWord (c : Char) : Bool :=
  isBlank c || ['=', ',', '[', ']', '\x7b', '\x7d', '#', '\r', '\n'].contains c

/-- The character goes on with a word in spite of the blanks in front of it. -/
def resumesWord (c : Char) : Bool := !(endsWord c || c == '.' || c == '"' || c == '\'')

def takeWords : Nat → List Char → List Char
  | 0, _ => []
  | count + 1, cs =>
    let word := cs.takeWhile fun c => !endsWord c
    let blanks := (cs.drop word.length).takeWhile isBlank
    let behind := cs.drop (word.length + blanks.length)
    if !blanks.isEmpty && behind.head?.any resumesWord then
      word ++ blanks ++ takeWords count behind
    else word

/-- Reads the characters of a word; blanks that end no value belong to it, such as the space before
a time. -/
def readWord : Reader (List Char) := fun cs =>
  let words := takeWords cs.length cs
  some (words, cs.drop words.length)

def wordValue? (word : List Char) : Option Value :=
  if word = "true".toList then some (.boolean true)
  else if word = "false".toList then some (.boolean false)
  else if isDateTime word then some (.dateTime (String.ofList word))
  else match integer? word with
    | some number => some (.integer (some number))
    | none => if isHollow word then some (.integer none) else (float? word).map .float

def readScalar : Reader Value := fun cs =>
  match cs with
  | '"' :: _ => (readString cs).map fun (text, rest) => (.string text, rest)
  | '\'' :: _ => (readString cs).map fun (text, rest) => (.string text, rest)
  | _ => do
    let (word, rest) ← readWord cs
    let value ← wordValue? word
    some (value, rest)

def readElements (value : Reader Value) : Nat → Reader (List Value)
  | 0, _ => none
  | count + 1, cs =>
    match skipLayout cs with
    | ']' :: rest => some ([], rest)
    | start => do
      let (element, rest) ← value start
      match skipLayout rest with
      | ',' :: behind =>
        let (elements, rest) ← readElements value count behind
        some (element :: elements, rest)
      | ']' :: behind => some ([element], behind)
      | _ => none

def readAssignment (skip : List Char → List Char) (value : Reader Value) :
    Reader (KeyPath × Value) := fun cs => do
  let (path, rest) ← readPath cs
  match skip rest with
  | '=' :: behind =>
    let (assigned, rest) ← value (skip behind)
    some ((path, assigned), rest)
  | _ => none

def readEntries (value : Reader Value) : Nat → Table → Reader Table
  | 0, _, _ => none
  | count + 1, table, cs =>
    match skipLayout cs with
    | '\x7d' :: rest => some (table, rest)
    | start => do
      let ((path, assigned), rest) ← readAssignment skipLayout value start
      let table ← table.assign path assigned
      match skipLayout rest with
      | ',' :: behind => readEntries value count table behind
      | '\x7d' :: behind => some (table, behind)
      | _ => none

def readValue : Nat → Reader Value
  | 0 => readScalar
  | depth + 1 => fun cs =>
    match cs with
    | '[' :: rest => do
      let (elements, rest) ← readElements (readValue depth) (rest.length + 1) rest
      some (.array elements, rest)
    | '\x7b' :: rest => do
      let (table, rest) ← readEntries (readValue depth) (rest.length + 1) (.empty .header) rest
      some (table.toValue, rest)
    | _ => readScalar cs

end SourceModel.Toml
