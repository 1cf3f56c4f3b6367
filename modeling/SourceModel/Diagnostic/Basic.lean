import SourceModel.Diagnostic.Span
import SourceModel.Text.Joined

namespace SourceModel

inductive Severity
  | error
  | warning
  deriving DecidableEq, Repr, Inhabited

def Severity.name : Severity → String
  | error => "error"
  | warning => "warning"

inductive ErrorCode
  | emptyInput
  | unexpectedCharacter
  | unexpectedToken
  | incompleteInput
  | trailingInput
  deriving DecidableEq, Repr, Inhabited

namespace ErrorCode

def all : List ErrorCode :=
  [emptyInput, unexpectedCharacter, unexpectedToken, incompleteInput, trailingInput]

def name : ErrorCode → String
  | emptyInput => "E001"
  | unexpectedCharacter => "E002"
  | unexpectedToken => "E100"
  | incompleteInput => "E101"
  | trailingInput => "E102"

def description : ErrorCode → String
  | emptyInput => "empty input"
  | unexpectedCharacter => "unexpected character"
  | unexpectedToken => "unexpected token"
  | incompleteInput => "incomplete input"
  | trailingInput => "trailing input"

def ofName? (text : String) : Option ErrorCode := all.find? fun code => code.name = text

theorem ofName?_name (code : ErrorCode) : ofName? code.name = some code := by
  cases code <;> decide

end ErrorCode

structure Label where
  span : Span
  message : String
  isPrimary : Bool
  deriving DecidableEq

structure Diagnostic where
  severity : Severity
  message : String
  code : Option ErrorCode := none
  labels : List Label := []
  help : Option String := none
  deriving DecidableEq

namespace Diagnostic

def primarySpan? (diagnostic : Diagnostic) : Option Span :=
  (diagnostic.labels.find? Label.isPrimary).map Label.span

def summary (diagnostic : Diagnostic) : String :=
  let code := match diagnostic.code with
    | some code => "[" ++ code.name ++ "]"
    | none => ""
  diagnostic.severity.name ++ code ++ ": " ++ diagnostic.message

end Diagnostic

structure ParseError where
  diagnostics : List Diagnostic
  deriving DecidableEq

def ParseError.message (e : ParseError) : String :=
  match e.diagnostics with
  | [] => ""
  | [only] => only.summary
  | first :: rest => first.summary ++ " (+" ++ toString rest.length ++ " more)"

end SourceModel
