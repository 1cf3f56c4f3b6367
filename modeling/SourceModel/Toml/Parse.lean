import SourceModel.Toml.Reader

namespace SourceModel.Toml

def nestingLimit : Nat := 80

inductive Line
  | assignment (path : KeyPath) (value : Value)
  | tableHeader (path : KeyPath)
  | elementHeader (path : KeyPath)

def readLine : Reader Line
  | '[' :: '[' :: rest => do
    match ← readPath rest with
    | (path, ']' :: ']' :: rest) => some (.elementHeader path, rest)
    | _ => none
  | '[' :: rest => do
    match ← readPath rest with
    | (path, ']' :: rest) => some (.tableHeader path, rest)
    | _ => none
  | cs => do
    let ((path, value), rest) ← readAssignment skipBlanks (readValue nestingLimit) cs
    some (.assignment path value, rest)

def readAllLines : Nat → List Char → Option (List Line)
  | 0, _ => none
  | count + 1, cs =>
    match skipLayout cs with
    | [] => some []
    | start => do
      let (line, rest) ← readLine start
      let lines ← readAllLines count (← afterLine? rest)
      some (line :: lines)

structure Draft where
  root : Table
  header : List String

def Draft.empty : Draft := ⟨.empty .header, []⟩

def Draft.add (draft : Draft) : Line → Option Draft
  | .assignment path value =>
    (draft.root.within draft.header fun table => table.assign path value).map
      fun root => { draft with root }
  | .tableHeader path =>
    (draft.root.openTable path).map fun root => ⟨root, path.through ++ [path.key]⟩
  | .elementHeader path =>
    (draft.root.openElement path).map fun root => ⟨root, path.through ++ [path.key]⟩

def skipByteOrderMark : List Char → List Char
  | '\uFEFF' :: rest => rest
  | cs => cs

def parse (text : String) : Option Value := do
  let source := skipByteOrderMark text.toList
  let lines ← readAllLines (source.length + 1) source
  let draft ← lines.foldlM Draft.add .empty
  some draft.root.toValue

end SourceModel.Toml
