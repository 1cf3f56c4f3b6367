import SourceModel.Toml.Keys
import SourceModel.Toml.Value

/-!
# Tables under construction

A table remembers how it came about: by a header of its own, on the way of another header, or by
the dots of a key. A table on the way may still get its own header or become one that dots made;
dots lead into no table that has a header, and a table that dots made gets none.
-/

namespace SourceModel.Toml

inductive Origin
  | header
  | onTheWay
  | dots
  deriving DecidableEq, Repr, Inhabited

mutual
inductive Table
  | mk (origin : Origin) (items : List (String × Item))
inductive Item
  | value (value : Value)
  | table (table : Table)
  /-- An array of tables: the last one, and those before it from last to first. -/
  | tables (last : Table) (earlier : List Table)
end

namespace Table

def origin : Table → Origin
  | mk origin _ => origin

def items : Table → List (String × Item)
  | mk _ items => items

def empty (origin : Origin) : Table := mk origin []

instance : Inhabited Table := ⟨empty .header⟩

def get? (table : Table) (key : String) : Option Item :=
  (table.items.find? fun entry => entry.1 = key).map Prod.snd

def put (table : Table) (key : String) (item : Item) : Table :=
  mk table.origin
    (if (table.get? key).isSome then
      table.items.map fun entry => if entry.1 = key then (key, item) else entry
    else table.items ++ [(key, item)])

def passed? (way : Origin) (table : Table) : Option Table :=
  if way = .dots then
    if table.origin = .header then none else some (mk .dots table.items)
  else some table

def descend (way : Origin) (change : Table → Option Table) : List String → Table → Option Table
  | [], table => change table
  | key :: rest, table =>
    match table.get? key with
    | none => (descend way change rest (empty way)).map fun inner => table.put key (.table inner)
    | some (.table inner) =>
      ((inner.passed? way).bind (descend way change rest)).map fun inner =>
        table.put key (.table inner)
    | some (.tables last earlier) =>
      (descend way change rest last).map fun last => table.put key (.tables last earlier)
    | some (.value _) => none

def assign (table : Table) (path : KeyPath) (value : Value) : Option Table :=
  descend .dots
    (fun inner =>
      if (inner.origin == .dots) == path.through.isEmpty then none
      else if (inner.get? path.key).isSome then none
      else some (inner.put path.key (.value value)))
    path.through table

def openTable (table : Table) (path : KeyPath) : Option Table :=
  descend .onTheWay
    (fun inner =>
      match inner.get? path.key with
      | none => some (inner.put path.key (.table (empty .header)))
      | some (.table existing) =>
        if existing.origin = .onTheWay then
          some (inner.put path.key (.table (mk .header existing.items)))
        else none
      | _ => none)
    path.through table

def openElement (table : Table) (path : KeyPath) : Option Table :=
  descend .onTheWay
    (fun inner =>
      match inner.get? path.key with
      | none => some (inner.put path.key (.tables (empty .header) []))
      | some (.tables last earlier) =>
        some (inner.put path.key (.tables (empty .header) (last :: earlier)))
      | _ => none)
    path.through table

def within (table : Table) (header : List String) (change : Table → Option Table) : Option Table :=
  descend .onTheWay change header table

mutual
def toValue : Table → Value
  | mk _ items => .table (entriesOf items)
def entriesOf : List (String × Item) → List (String × Value)
  | [] => []
  | (key, item) :: rest => (key, valueOf item) :: entriesOf rest
def valueOf : Item → Value
  | .value value => value
  | .table table => toValue table
  | .tables last earlier => .array (valuesOf earlier ++ [toValue last])
def valuesOf : List Table → List Value
  | [] => []
  | table :: rest => valuesOf rest ++ [toValue table]
end

end Table

end SourceModel.Toml
