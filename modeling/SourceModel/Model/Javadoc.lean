namespace SourceModel

structure JavadocTag where
  name : String
  value : Option String := none
  text : Option String := none
  deriving DecidableEq, Repr, Inhabited

namespace JavadocTag

def of (name text : String) : JavadocTag := ⟨name, none, some text⟩

def withValue (name value text : String) : JavadocTag := ⟨name, some value, some text⟩

def param (parameter text : String) : JavadocTag := withValue "param" parameter text

def returns (text : String) : JavadocTag := of "return" text

def see (reference : String) : JavadocTag := ⟨"see", some reference, none⟩

end JavadocTag

structure Javadoc where
  text : String := ""
  tags : List JavadocTag := []
  deriving DecidableEq, Repr, Inhabited

end SourceModel
