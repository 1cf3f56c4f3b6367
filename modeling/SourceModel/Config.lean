import SourceModel.Formatting

namespace SourceModel

structure Config where
  dialect : String := "java"
  formatting : Formatting := .standard
  deriving DecidableEq, Repr

def Config.standard : Config := {}

end SourceModel
