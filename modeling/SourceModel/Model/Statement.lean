namespace SourceModel

inductive Statement
  | simple (text : String)
  | composite (children : List Statement)
  deriving Repr, Inhabited

mutual
def Statement.height : Statement → Nat
  | .simple _ => 1
  | .composite children => Statement.heightAll children + 1
def Statement.heightAll : List Statement → Nat
  | [] => 0
  | s :: rest => max (Statement.height s) (Statement.heightAll rest)
end

end SourceModel
