import SourceModel.Toml.Value

/-!
# Records

A record is a table with known keys. Where there is no doubt about its kind it may also be written
as an array of its values, in the order of the keys.
-/

namespace SourceModel.Document

open Toml (Value FloatLiteral)

inductive Presence
  | required
  | optional
  | defaulted
  deriving DecidableEq, Repr

structure Shape where
  keys : List (String × Presence)
  ignores : Value → Bool := fun _ => false
  ignoresSurplus : Bool := false

abbrev Record := List (String × Value)

/-- What a table holds. A date or time counts as a table with one key that no record has. -/
def entries? : Value → Option (List (String × Value))
  | .table entries => some entries
  | .dateTime text => some [("date-time", .string text)]
  | _ => none

namespace Shape

def has (shape : Shape) (key : String) : Bool := shape.keys.any fun known => known.1 == key

def ofEntries? (shape : Shape) (entries : List (String × Value)) : Option Record :=
  let known := entries.all fun entry => shape.has entry.1 || shape.ignores entry.2
  let complete := shape.keys.all fun key =>
    key.2 != .required || entries.any fun entry => entry.1 == key.1
  if known && complete then some entries else none

def ofElements? (shape : Shape) (elements : List Value) : Option Record :=
  let fits := elements.length ≤ shape.keys.length || shape.ignoresSurplus
  let complete := (shape.keys.drop elements.length).all fun key => key.2 == .defaulted
  if fits && complete then some ((shape.keys.map Prod.fst).zip elements) else none

def ofValue? (shape : Shape) (value : Value) : Option Record :=
  match value with
  | .array elements => shape.ofElements? elements
  | _ => (entries? value).bind shape.ofEntries?

end Shape

namespace Record

def get? (record : Record) (key : String) : Option Value :=
  (record.find? fun entry => entry.1 = key).map Prod.snd

variable {α : Type}

def required (record : Record) (key : String) (decode : Value → Option α) : Option α :=
  (record.get? key).bind decode

def optional (record : Record) (key : String) (decode : Value → Option α) : Option (Option α) :=
  match record.get? key with
  | none => some none
  | some value => (decode value).map some

def defaulted (record : Record) (key : String) (default : α) (decode : Value → Option α) :
    Option α :=
  match record.get? key with
  | none => some default
  | some value => decode value

end Record

def text? : Value → Option String
  | .string text => some text
  | _ => none

def list? {α : Type} (decode : Value → Option α) : Value → Option (List α)
  | .array elements => elements.mapM decode
  | _ => none

def texts? : Value → Option (List String) := list? text?

def fitsWords (bits : Nat) (value : Value) : Bool :=
  value.allNumbers
    (fun n => decide (-(Nat.pow 2 (bits - 1) : Int) ≤ n) && decide (n < (Nat.pow 2 bits : Int)))
    FloatLiteral.isBounded

end SourceModel.Document
