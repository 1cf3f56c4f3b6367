import SourceModel.Diagnostic.Basic
import SourceModel.Text.Joined
import SourceModel.TypeExpr.Reader

namespace SourceModel.TypeExpr

def positionOf (source remaining : List Char) : Nat :=
  Text.utf8Length source - Text.utf8Length remaining

def Failure.diagnostic (failure : Failure) (source : List Char) : Diagnostic :=
  let position := positionOf source failure.remaining
  let opened := match failure.expected with
    | .listEnd opening =>
      let start := positionOf source opening
      [⟨.between start (start + 1), "generic argument list opened here", false⟩]
    | _ => []
  match failure.remaining with
  | [] =>
    { severity := .error
      message := "expected " ++ failure.expected.what
      code := some .incompleteInput
      labels := ⟨.between position position, "input ends here", true⟩ :: opened
      help := failure.help? }
  | c :: _ =>
    { severity := .error
      message := "expected " ++ failure.expected.what
      code := some .unexpectedToken
      labels :=
        ⟨.between position (position + c.utf8Size), "unexpected `" ++ String.ofList [c] ++ "`",
          true⟩ :: opened
      help := failure.help? }

def emptyDiagnostic (what : String) (source : List Char) : Diagnostic where
  severity := .error
  message := "empty " ++ what
  code := some .emptyInput
  labels := [⟨.between 0 (Text.utf8Length source), ErrorCode.emptyInput.description, true⟩]

def trailingDiagnostic (what : String) (source remaining : List Char) : Diagnostic where
  severity := .error
  message := "unexpected input after " ++ what
  code := some .trailingInput
  labels :=
    [⟨.between (positionOf source remaining) (Text.utf8Length source),
      "not part of the expression", true⟩]
  help := some "remove the trailing input"

def parseWhole {α : Type} (what : String) (reader : Reader α) (text : String) :
    Except ParseError α :=
  let source := text.toList
  if source.all Text.isBlank then .error ⟨[emptyDiagnostic what source]⟩
  else
    let start := Text.skipSpacing source
    match reader start with
    | .done value rest =>
      match Text.skipSpacing rest with
      | [] => .ok value
      | remaining => .error ⟨[trailingDiagnostic what source remaining]⟩
    | .failed failure => .error ⟨[failure.diagnostic source]⟩
    | .missing => .error ⟨[Failure.diagnostic ⟨.typeName, start, false⟩ source]⟩

def parseType (text : String) : Except ParseError TypeRef :=
  parseWhole "type expression" readType text

def parseGeneric (text : String) : Except ParseError Generic :=
  parseWhole "generic expression" readParameter text

end SourceModel.TypeExpr
