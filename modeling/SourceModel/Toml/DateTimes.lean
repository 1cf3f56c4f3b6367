import SourceModel.Toml.Strings

namespace SourceModel.Toml

def readFixed (count : Nat) : Reader Nat := fun cs =>
  let digits := cs.take count
  if digits.length = count && digits.all Char.isDigit then
    some (digits.foldl (fun n c => 10 * n + (c.toNat - '0'.toNat)) 0, cs.drop count)
  else none

def after? (c : Char) : List Char → Option (List Char)
  | d :: rest => if c = d then some rest else none
  | [] => none

def isLeapYear (year : Nat) : Bool := year % 4 == 0 && (year % 100 != 0 || year % 400 == 0)

def daysInMonth (year month : Nat) : Nat :=
  if month = 2 then (if isLeapYear year then 29 else 28)
  else if [4, 6, 9, 11].contains month then 30
  else if 1 ≤ month ∧ month ≤ 12 then 31
  else 0

def afterDate? (cs : List Char) : Option (List Char) := do
  let (year, cs) ← readFixed 4 cs
  let (month, cs) ← readFixed 2 (← after? '-' cs)
  let (day, cs) ← readFixed 2 (← after? '-' cs)
  if 1 ≤ day ∧ day ≤ daysInMonth year month then some cs else none

def afterMinutes? (cs : List Char) : Option (List Char) := do
  let (hour, cs) ← readFixed 2 cs
  let (minute, cs) ← readFixed 2 (← after? ':' cs)
  if hour ≤ 23 ∧ minute ≤ 59 then some cs else none

def afterFraction? : List Char → Option (List Char)
  | '.' :: c :: rest => if c.isDigit then some (rest.dropWhile Char.isDigit) else none
  | '.' :: [] => none
  | cs => some cs

def afterTime? (cs : List Char) : Option (List Char) := do
  match ← afterMinutes? cs with
  | ':' :: rest =>
    let (second, rest) ← readFixed 2 rest
    if second ≤ 60 then afterFraction? rest else none
  | rest => some rest

def isOffset : List Char → Bool
  | ['Z'] => true
  | ['z'] => true
  | '+' :: rest => afterMinutes? rest == some []
  | '-' :: rest => afterMinutes? rest == some []
  | _ => false

def isDate (cs : List Char) : Bool := afterDate? cs == some []

def isTime (offset : Bool) (cs : List Char) : Bool :=
  match afterTime? cs with
  | some [] => true
  | some rest => offset && isOffset rest
  | none => false

def isDateTime (cs : List Char) : Bool :=
  match afterDate? cs with
  | some [] => true
  | some (c :: rest) => (c == 'T' || c == 't' || c == ' ') && isTime true rest
  | none => isTime false cs

end SourceModel.Toml
