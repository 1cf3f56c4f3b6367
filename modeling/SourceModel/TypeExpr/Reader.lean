import SourceModel.TypeExpr.Reading
import SourceModel.TypeExpr.Scan

/-!
# Reading type expressions

A list takes a separator only together with the item behind it. An opening bracket and a keyword
before bounds commit the reader. The readers take the reader of types as an argument; `readType`
ties the knot by the depth to which types may nest, which the length of the text bounds.
-/

namespace SourceModel.TypeExpr

open Text

abbrev Reader (α : Type) := List Char → Reading α

def readMore {α : Type} (separator : List Char → Option (List Char)) (item : Reader α) :
    Nat → List Char → Reading (List α)
  | 0, cs => .done [] cs
  | count + 1, cs =>
    match separator cs with
    | none => .done [] cs
    | some behind =>
      match item behind with
      | .missing => .done [] cs
      | .failed failure => .failed failure
      | .done value rest => (readMore separator item count rest).map (value :: ·)

def readList {α : Type} (separator : List Char → Option (List Char)) (item : Reader α) :
    Reader (List α) := fun cs =>
  (item cs).andThen fun value rest =>
    (readMore separator item rest.length rest).map (value :: ·)

def readAmpersand? (cs : List Char) : Option (List Char) :=
  match skipSpacing cs with
  | '&' :: rest => some (skipSpacing rest)
  | _ => none

def readComma? : List Char → Option (List Char)
  | ',' :: rest => some rest
  | _ => none

def readBounds (type : Reader TypeRef) : Reader (List TypeRef) := fun cs =>
  match readSpacing? cs with
  | none => .failed ⟨.boundType, cs, true⟩
  | some rest =>
    ((readList readAmpersand? type rest).orFail ⟨.typeName, rest, true⟩).amongBounds

def readBoundKeyword? (cs : List Char) : Option (BoundKeyword × List Char) :=
  (readSpacing? cs).bind readKeyword?

def readWildcard (type : Reader TypeRef) : Reader Generic
  | '?' :: rest =>
    match readBoundKeyword? rest with
    | none => .done (.wildcard .extend []) rest
    | some (keyword, behind) => (readBounds type behind).map (.wildcard keyword)
  | _ => .missing

def readArgument (type : Reader TypeRef) : Reader Generic := fun cs =>
  match readWildcard type cs with
  | .missing => (type cs).map .ofType
  | reading => reading

def readSpacedArgument (type : Reader TypeRef) : Reader Generic := fun cs =>
  (readArgument type (skipSpacing cs)).andThen fun generic rest =>
    .done generic (skipSpacing rest)

def readArguments (type : Reader TypeRef) : Reader (List Generic) := fun cs =>
  match skipSpacing cs with
  | '<' :: rest =>
    ((readList readComma? (readSpacedArgument type) rest).orFail
      ⟨.typeName, skipSpacing rest, false⟩).andThen fun generics remaining =>
        match remaining with
        | '>' :: behind => .done generics behind
        | _ => .failed ⟨.listEnd ('<' :: rest), remaining, false⟩
  | _ => .missing

def readDimensions : Nat → List Char → Reading Nat
  | 0, cs => .done 0 cs
  | count + 1, cs =>
    match skipSpacing cs with
    | '[' :: rest =>
      match skipSpacing rest with
      | ']' :: behind => (readDimensions count behind).map (· + 1)
      | remaining => .failed ⟨.closingBracket, remaining, false⟩
    | _ => .done 0 cs

def readTypeWith (type : Reader TypeRef) : Reader TypeRef := fun cs =>
  match readName? cs with
  | none => .missing
  | some (name, rest) =>
    ((readArguments type rest).orDefault [] rest).andThen fun generics behind =>
      (readDimensions behind.length behind).map fun dimensions =>
        .mk (String.ofList name) generics dimensions

def readTypeWithin : Nat → Reader TypeRef
  | 0 => fun _ => .missing
  | depth + 1 => readTypeWith (readTypeWithin depth)

def readType : Reader TypeRef := fun cs => readTypeWithin (cs.length + 1) cs

/-- Reads a declared type parameter, unless what starts here goes on like a type. -/
def readNamedParameter : Reader Generic := fun cs =>
  match readIdentifier? cs with
  | none => .missing
  | some (name, rest) =>
    if (skipSpacing rest).head?.any fun c => c == '.' || c == '<' || c == '[' then .missing
    else match readBoundKeyword? rest with
      | some (.extend, behind) =>
        (readBounds readType behind).map fun bounds =>
          .mk (some (String.ofList name)) bounds .extend
      | _ => .done (.ofName (String.ofList name)) rest

def readParameter : Reader Generic := fun cs =>
  match readWildcard readType cs with
  | .missing =>
    match readNamedParameter cs with
    | .missing => (readType cs).map .ofType
    | reading => reading
  | reading => reading

end SourceModel.TypeExpr
