import SourceModel.Collection.OrderedSet
import SourceModel.Model.Javadoc
import SourceModel.Model.Modifier
import SourceModel.Model.Statement
import SourceModel.Model.TypeRef

namespace SourceModel

structure Field where
  name : String
  type : Option TypeRef := none
  modifiers : OrderedSet Modifier := ∅
  initializer : Option String := none
  javadoc : Option Javadoc := none
  deriving Inhabited

structure Parameter where
  name : String
  type : Option TypeRef := none
  modifiers : OrderedSet Modifier := ∅
  deriving Inhabited

/-- A method; a return type with the empty name makes it a constructor. -/
structure Method where
  name : String
  returns : TypeRef
  modifiers : OrderedSet Modifier := ∅
  generics : List Generic := []
  parameters : List Parameter := []
  throws : List TypeRef := []
  body : Option (List Statement) := none
  javadoc : Option Javadoc := none
  deriving Inhabited

def Method.addStatement (method : Method) (statement : Statement) : Method :=
  { method with body := some (method.body.getD [] ++ [statement]) }

end SourceModel
