namespace SourceModel

structure NodeKind where
  name : String
  deriving DecidableEq, Repr, Inhabited

namespace NodeKind

def file : NodeKind := ⟨"file"⟩
def importLine : NodeKind := ⟨"import"⟩
def declaration : NodeKind := ⟨"declaration"⟩
def classDecl : NodeKind := ⟨"class"⟩
def interfaceDecl : NodeKind := ⟨"interface"⟩
def method : NodeKind := ⟨"method"⟩
def field : NodeKind := ⟨"field"⟩
def parameter : NodeKind := ⟨"parameter"⟩
def type : NodeKind := ⟨"type"⟩
def generic : NodeKind := ⟨"generic"⟩
def statement : NodeKind := ⟨"statement"⟩
def simpleStatement : NodeKind := ⟨"simple_statement"⟩
def compositeStatement : NodeKind := ⟨"composite_statement"⟩
def javadoc : NodeKind := ⟨"javadoc"⟩
def javadocTag : NodeKind := ⟨"javadoc_tag"⟩

end NodeKind

end SourceModel
