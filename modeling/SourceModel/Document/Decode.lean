import SourceModel.Document.Entries
import SourceModel.Document.Record

/-!
# Decoding model documents

Imports and documentation comments are told by their form, a string or a table, and their tables
pass over unknown keys. A declaration says its kind under a key of its own, or in its first element.
-/

namespace SourceModel.Document

open Toml (Value)

def importShape : Shape where
  keys := [("type", .required), ("member", .required)]
  ignores := fitsWords 64

def importOf? (value : Value) : Option ImportEntry :=
  match value with
  | .string type => some { type }
  | _ => do
    let record ← (entries? value).bind importShape.ofEntries?
    let type ← record.required "type" text?
    let member ← record.required "member" text?
    some { type, member }

def tagShape : Shape where
  keys := [("name", .required), ("value", .optional), ("text", .optional)]

def tagOf? (value : Value) : Option TagEntry := do
  let record ← tagShape.ofValue? value
  let name ← record.required "name" text?
  let tagValue ← record.optional "value" text?
  let text ← record.optional "text" text?
  some { name, value := tagValue, text }

def javadocShape : Shape where
  keys := [("text", .defaulted), ("tags", .defaulted)]
  ignores := fitsWords 64

def javadocOf? (value : Value) : Option JavadocEntry :=
  match value with
  | .string text => some { text }
  | _ => do
    let record ← (entries? value).bind javadocShape.ofEntries?
    let text ← record.defaulted "text" "" text?
    let tags ← record.defaulted "tags" [] (list? tagOf?)
    some { text, tags }

mutual
def statement? : Value → Option StatementEntry
  | .string text => some (.simple text)
  | .array elements => (statements? elements).map .composite
  | _ => none
def statements? : List Value → Option (List StatementEntry)
  | [] => some []
  | value :: rest => do
    let statement ← statement? value
    let others ← statements? rest
    some (statement :: others)
end

def fieldShape : Shape where
  keys :=
    [("name", .required), ("type", .optional), ("modifiers", .defaulted),
     ("initializer", .optional), ("javadoc", .optional)]

def fieldOf? (value : Value) : Option FieldEntry := do
  let record ← fieldShape.ofValue? value
  let name ← record.required "name" text?
  let type ← record.optional "type" text?
  let modifiers ← record.defaulted "modifiers" [] texts?
  let initializer ← record.optional "initializer" text?
  let javadoc ← record.optional "javadoc" javadocOf?
  some { name, type, modifiers, initializer, javadoc }

def parameterShape : Shape where
  keys := [("name", .required), ("type", .optional), ("modifiers", .defaulted)]

def parameterOf? (value : Value) : Option ParameterEntry := do
  let record ← parameterShape.ofValue? value
  let name ← record.required "name" text?
  let type ← record.optional "type" text?
  let modifiers ← record.defaulted "modifiers" [] texts?
  some { name, type, modifiers }

def methodShape : Shape where
  keys :=
    [("name", .required), ("returns", .optional), ("modifiers", .defaulted),
     ("generics", .defaulted), ("params", .defaulted), ("throws", .defaulted),
     ("body", .optional), ("javadoc", .optional)]

def methodOf? (value : Value) : Option MethodEntry := do
  let record ← methodShape.ofValue? value
  let name ← record.required "name" text?
  let returns ← record.optional "returns" text?
  let modifiers ← record.defaulted "modifiers" [] texts?
  let generics ← record.defaulted "generics" [] texts?
  let parameters ← record.defaulted "params" [] (list? parameterOf?)
  let throws ← record.defaulted "throws" [] texts?
  let body ← record.optional "body" (list? statement?)
  let javadoc ← record.optional "javadoc" javadocOf?
  some { name, returns, modifiers, generics, parameters, throws, body, javadoc }

def classShape : Shape where
  keys :=
    [("name", .required), ("modifiers", .defaulted), ("generics", .defaulted),
     ("extends", .optional), ("implements", .defaulted), ("field", .defaulted),
     ("method", .defaulted), ("javadoc", .optional)]

def classOf? (record : Record) : Option ClassEntry := do
  let name ← record.required "name" text?
  let modifiers ← record.defaulted "modifiers" [] texts?
  let generics ← record.defaulted "generics" [] texts?
  let supertype ← record.optional "extends" text?
  let interfaces ← record.defaulted "implements" [] texts?
  let fields ← record.defaulted "field" [] (list? fieldOf?)
  let methods ← record.defaulted "method" [] (list? methodOf?)
  let javadoc ← record.optional "javadoc" javadocOf?
  some { name, modifiers, generics, supertype, interfaces, fields, methods, javadoc }

def interfaceShape : Shape where
  keys :=
    [("name", .required), ("modifiers", .defaulted), ("generics", .defaulted),
     ("extends", .defaulted), ("field", .defaulted), ("method", .defaulted),
     ("javadoc", .optional)]

def interfaceOf? (record : Record) : Option InterfaceEntry := do
  let name ← record.required "name" text?
  let modifiers ← record.defaulted "modifiers" [] texts?
  let generics ← record.defaulted "generics" [] texts?
  let supertypes ← record.defaulted "extends" [] texts?
  let fields ← record.defaulted "field" [] (list? fieldOf?)
  let methods ← record.defaulted "method" [] (list? methodOf?)
  let javadoc ← record.optional "javadoc" javadocOf?
  some { name, modifiers, generics, supertypes, fields, methods, javadoc }

inductive DeclarationKind
  | classKind
  | interfaceKind
  deriving DecidableEq, Repr

def declarationKind? : Value → Option DeclarationKind
  | .string "class" => some .classKind
  | .string "interface" => some .interfaceKind
  | _ => none

def DeclarationKind.declaration? (kind : DeclarationKind) (find : Shape → Option Record) :
    Option DeclarationEntry :=
  match kind with
  | classKind => ((find classShape).bind classOf?).map .classEntry
  | interfaceKind => ((find interfaceShape).bind interfaceOf?).map .interfaceEntry

def declarationOf? : Value → Option DeclarationEntry
  | .array (kind :: elements) => do
    (← declarationKind? kind).declaration? fun shape => shape.ofElements? elements
  | .table entries => do
    let kind ← (Record.get? entries "kind").bind declarationKind?
    kind.declaration? fun shape => shape.ofEntries? (entries.filter fun entry => entry.1 != "kind")
  | _ => none

def fileShape : Shape where
  keys := [("name", .required), ("imports", .defaulted), ("declaration", .defaulted)]
  ignoresSurplus := true

def fileOf? (value : Value) : Option FileEntry := do
  let record ← fileShape.ofValue? value
  let name ← record.required "name" text?
  let imports ← record.defaulted "imports" [] (list? importOf?)
  let declarations ← record.defaulted "declaration" [] (list? declarationOf?)
  some { name, imports, declarations }

def documentShape : Shape where
  keys := [("file", .defaulted)]

def filesOf? (value : Value) : Option (List FileEntry) := do
  let record ← documentShape.ofValue? value
  record.defaulted "file" [] (list? fileOf?)

end SourceModel.Document
