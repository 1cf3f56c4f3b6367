import SourceModel.Document.Decode
import SourceModel.Failure
import SourceModel.Model.SourceFile
import SourceModel.Toml.Parse
import SourceModel.TypeExpr.Parse

namespace SourceModel.Document

def typeOf (expression : String) : Except Failure TypeRef :=
  (TypeExpr.parseType expression).mapError fun e => .parse e expression

def genericOf (expression : String) : Except Failure Generic :=
  (TypeExpr.parseGeneric expression).mapError fun e => .parse e expression

def optionalTypeOf : Option String → Except Failure (Option TypeRef)
  | none => .ok none
  | some expression => (typeOf expression).map some

def modifierOf (word : String) : Except Failure Modifier :=
  match Modifier.ofKeyword? word with
  | some modifier => .ok modifier
  | none => .error (.model (Modifier.unknownMessage word))

def modifiersOf (words : List String) : Except Failure (OrderedSet Modifier) :=
  (words.mapM modifierOf).map .ofList

def ImportEntry.assemble (entry : ImportEntry) : Except Failure Import := do
  let type ← typeOf entry.type
  return { type, member := entry.member }

def TagEntry.assemble (entry : TagEntry) : JavadocTag :=
  match entry.value with
  | some value => .withValue entry.name value (entry.text.getD "")
  | none => .of entry.name (entry.text.getD "")

def JavadocEntry.assemble (entry : JavadocEntry) : Javadoc where
  text := entry.text
  tags := entry.tags.map TagEntry.assemble

mutual
def StatementEntry.assemble : StatementEntry → Statement
  | .simple text => .simple text
  | .composite children => .composite (StatementEntry.assembleAll children)
def StatementEntry.assembleAll : List StatementEntry → List Statement
  | [] => []
  | entry :: rest => StatementEntry.assemble entry :: StatementEntry.assembleAll rest
end

def FieldEntry.assemble (entry : FieldEntry) : Except Failure Field := do
  let type ← optionalTypeOf entry.type
  let modifiers ← modifiersOf entry.modifiers
  return {
    name := entry.name
    type
    modifiers
    initializer := entry.initializer
    javadoc := entry.javadoc.map JavadocEntry.assemble }

def ParameterEntry.assemble (entry : ParameterEntry) : Except Failure Parameter := do
  let type ← optionalTypeOf entry.type
  let modifiers ← modifiersOf entry.modifiers
  return { name := entry.name, type, modifiers }

/-- The method of the entry; the return type of a constructor has no name. -/
def MethodEntry.assemble (entry : MethodEntry) : Except Failure Method := do
  let returns ← optionalTypeOf entry.returns
  let modifiers ← modifiersOf entry.modifiers
  let generics ← entry.generics.mapM genericOf
  let parameters ← entry.parameters.mapM ParameterEntry.assemble
  let throws ← entry.throws.mapM typeOf
  return {
    name := entry.name
    returns := returns.getD (.ofName "")
    modifiers
    generics
    parameters
    throws
    body := entry.body.map StatementEntry.assembleAll
    javadoc := entry.javadoc.map JavadocEntry.assemble }

def ClassEntry.assemble (entry : ClassEntry) : Except Failure ClassDecl := do
  let modifiers ← modifiersOf entry.modifiers
  let generics ← entry.generics.mapM genericOf
  let supertype ← optionalTypeOf entry.supertype
  let interfaces ← entry.interfaces.mapM typeOf
  let fields ← entry.fields.mapM FieldEntry.assemble
  let methods ← entry.methods.mapM MethodEntry.assemble
  return {
    name := entry.name
    modifiers
    generics
    supertype
    interfaces
    fields
    methods
    javadoc := entry.javadoc.map JavadocEntry.assemble }

def InterfaceEntry.assemble (entry : InterfaceEntry) : Except Failure InterfaceDecl := do
  let modifiers ← modifiersOf entry.modifiers
  let generics ← entry.generics.mapM genericOf
  let supertypes ← entry.supertypes.mapM typeOf
  let fields ← entry.fields.mapM FieldEntry.assemble
  let methods ← entry.methods.mapM MethodEntry.assemble
  return {
    name := entry.name
    modifiers
    generics
    supertypes
    fields
    methods
    javadoc := entry.javadoc.map JavadocEntry.assemble }

def DeclarationEntry.assemble : DeclarationEntry → Except Failure Declaration
  | .classEntry entry => entry.assemble.map .classDecl
  | .interfaceEntry entry => entry.assemble.map .interfaceDecl

def FileEntry.assemble (entry : FileEntry) : Except Failure SourceFile := do
  let imports ← entry.imports.mapM ImportEntry.assemble
  let declarations ← entry.declarations.mapM DeclarationEntry.assemble
  return { name := entry.name, imports := .ofList imports, declarations }

def assemble (entries : List FileEntry) : Except Failure (List SourceFile) :=
  if entries.isEmpty then .error (.model "model document does not declare any `[[file]]`")
  else entries.mapM FileEntry.assemble

def decode (text : String) : Except Failure (List FileEntry) :=
  match (Toml.parse text).bind filesOf? with
  | some entries => .ok entries
  | none => .error (.model "invalid model document")

def parse (text : String) : Except Failure (List SourceFile) := do assemble (← decode text)

end SourceModel.Document
