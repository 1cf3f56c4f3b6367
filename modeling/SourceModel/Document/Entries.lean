namespace SourceModel.Document

structure ImportEntry where
  type : String
  member : Option String := none
  deriving DecidableEq, Repr, Inhabited

structure TagEntry where
  name : String
  value : Option String := none
  text : Option String := none
  deriving DecidableEq, Repr, Inhabited

structure JavadocEntry where
  text : String := ""
  tags : List TagEntry := []
  deriving DecidableEq, Repr, Inhabited

structure FieldEntry where
  name : String
  type : Option String := none
  modifiers : List String := []
  initializer : Option String := none
  javadoc : Option JavadocEntry := none
  deriving DecidableEq, Repr, Inhabited

structure ParameterEntry where
  name : String
  type : Option String := none
  modifiers : List String := []
  deriving DecidableEq, Repr, Inhabited

inductive StatementEntry
  | simple (text : String)
  | composite (children : List StatementEntry)
  deriving Repr, Inhabited

structure MethodEntry where
  name : String
  returns : Option String := none
  modifiers : List String := []
  generics : List String := []
  parameters : List ParameterEntry := []
  throws : List String := []
  body : Option (List StatementEntry) := none
  javadoc : Option JavadocEntry := none
  deriving Repr, Inhabited

structure ClassEntry where
  name : String
  modifiers : List String := []
  generics : List String := []
  supertype : Option String := none
  interfaces : List String := []
  fields : List FieldEntry := []
  methods : List MethodEntry := []
  javadoc : Option JavadocEntry := none
  deriving Repr, Inhabited

structure InterfaceEntry where
  name : String
  modifiers : List String := []
  generics : List String := []
  supertypes : List String := []
  fields : List FieldEntry := []
  methods : List MethodEntry := []
  javadoc : Option JavadocEntry := none
  deriving Repr, Inhabited

inductive DeclarationEntry
  | classEntry (entry : ClassEntry)
  | interfaceEntry (entry : InterfaceEntry)
  deriving Repr, Inhabited

structure FileEntry where
  name : String
  imports : List ImportEntry := []
  declarations : List DeclarationEntry := []
  deriving Repr, Inhabited

end SourceModel.Document
