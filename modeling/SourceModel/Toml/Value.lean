namespace SourceModel.Toml

inductive FloatLiteral
  | infinite (negative : Bool)
  | notANumber
  | decimal (negative : Bool) (coefficient : Nat) (exponent : Int)
  deriving DecidableEq, Repr

inductive Value
  | string (text : String)
  /-- An integer, or a token that only has the form of one. -/
  | integer (number : Option Int)
  | float (literal : FloatLiteral)
  | boolean (value : Bool)
  | dateTime (text : String)
  | array (elements : List Value)
  | table (entries : List (String × Value))
  deriving Repr, Inhabited

mutual
def Value.same : Value → Value → Bool
  | .string text, .string text' => text == text'
  | .integer number, .integer number' => number == number'
  | .float literal, .float literal' => literal == literal'
  | .boolean value, .boolean value' => value == value'
  | .dateTime text, .dateTime text' => text == text'
  | .array elements, .array elements' => Value.sameElements elements elements'
  | .table entries, .table entries' => Value.sameEntries entries entries'
  | _, _ => false
def Value.sameElements : List Value → List Value → Bool
  | [], [] => true
  | element :: rest, element' :: rest' =>
    Value.same element element' && Value.sameElements rest rest'
  | _, _ => false
def Value.sameEntries : List (String × Value) → List (String × Value) → Bool
  | [], [] => true
  | (key, value) :: rest, (key', value') :: rest' =>
    key == key' && Value.same value value' && Value.sameEntries rest rest'
  | _, _ => false
end

mutual
theorem Value.same_iff : ∀ value value' : Value, Value.same value value' = true ↔ value = value'
  | .string _, value' => by cases value' <;> simp [Value.same]
  | .integer _, value' => by cases value' <;> simp [Value.same]
  | .float _, value' => by cases value' <;> simp [Value.same]
  | .boolean _, value' => by cases value' <;> simp [Value.same]
  | .dateTime _, value' => by cases value' <;> simp [Value.same]
  | .array elements, value' => by
    cases value' <;> simp [Value.same, Value.sameElements_iff elements]
  | .table entries, value' => by
    cases value' <;> simp [Value.same, Value.sameEntries_iff entries]
theorem Value.sameElements_iff : ∀ elements elements' : List Value,
    Value.sameElements elements elements' = true ↔ elements = elements'
  | [], elements' => by cases elements' <;> simp [Value.sameElements]
  | element :: rest, elements' => by
    cases elements' <;>
      simp [Value.sameElements, Value.same_iff element, Value.sameElements_iff rest]
theorem Value.sameEntries_iff : ∀ entries entries' : List (String × Value),
    Value.sameEntries entries entries' = true ↔ entries = entries'
  | [], entries' => by cases entries' <;> simp [Value.sameEntries]
  | (key, value) :: rest, entries' => by
    cases entries' <;>
      simp [Value.sameEntries, Value.same_iff value, Value.sameEntries_iff rest, Prod.ext_iff,
        and_assoc]
end

instance : DecidableEq Value := fun value value' => decidable_of_iff _ (Value.same_iff value value')

/-- The least number that no binary number of 64 bits stands for: what is at least half a unit
above the largest one. -/
def floatBound : Nat := Nat.pow 2 1024 - Nat.pow 2 970

def FloatLiteral.isBounded : FloatLiteral → Bool
  | infinite _ => true
  | notANumber => true
  | decimal _ coefficient exponent =>
    let magnitude := (Nat.toDigits 10 coefficient).length + exponent
    if coefficient = 0 || magnitude < 300 then true
    else if 320 < magnitude then false
    else if 0 ≤ exponent then coefficient * Nat.pow 10 exponent.toNat < floatBound
    else coefficient < floatBound * Nat.pow 10 (-exponent).toNat

mutual
def Value.allNumbers (integers : Int → Bool) (floats : FloatLiteral → Bool) : Value → Bool
  | .integer number => number.any integers
  | .float literal => floats literal
  | .array elements => Value.allNumbersOfElements integers floats elements
  | .table entries => Value.allNumbersOfEntries integers floats entries
  | _ => true
def Value.allNumbersOfElements (integers : Int → Bool) (floats : FloatLiteral → Bool) :
    List Value → Bool
  | [] => true
  | element :: rest =>
    Value.allNumbers integers floats element && Value.allNumbersOfElements integers floats rest
def Value.allNumbersOfEntries (integers : Int → Bool) (floats : FloatLiteral → Bool) :
    List (String × Value) → Bool
  | [] => true
  | (_, value) :: rest =>
    Value.allNumbers integers floats value && Value.allNumbersOfEntries integers floats rest
end

end SourceModel.Toml
