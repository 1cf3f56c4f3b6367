namespace SourceModel

inductive Modifier
  | isPublic
  | isProtected
  | isPrivate
  | isAbstract
  | isDefault
  | isStatic
  | isFinal
  | isTransient
  | isVolatile
  | isSynchronized
  | isNative
  | isStrictfp
  deriving DecidableEq, Repr, Inhabited

namespace Modifier

def all : List Modifier :=
  [isPublic, isProtected, isPrivate, isAbstract, isDefault, isStatic, isFinal, isTransient,
   isVolatile, isSynchronized, isNative, isStrictfp]

def keyword : Modifier → String
  | isPublic => "public"
  | isProtected => "protected"
  | isPrivate => "private"
  | isAbstract => "abstract"
  | isDefault => "default"
  | isStatic => "static"
  | isFinal => "final"
  | isTransient => "transient"
  | isVolatile => "volatile"
  | isSynchronized => "synchronized"
  | isNative => "native"
  | isStrictfp => "strictfp"

def ofKeyword? (text : String) : Option Modifier := all.find? fun modifier => modifier.keyword = text

theorem ofKeyword?_keyword (modifier : Modifier) :
    ofKeyword? modifier.keyword = some modifier := by
  cases modifier <;> decide

theorem keyword_of_ofKeyword? {text : String} {modifier : Modifier}
    (h : ofKeyword? text = some modifier) : modifier.keyword = text := by
  simpa using List.find?_some h

def unknownMessage (text : String) : String := "unknown modifier `" ++ text ++ "`"

end Modifier

end SourceModel
