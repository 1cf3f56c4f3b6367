import SourceModel.Text.Split
import SourceModel.Toml.Strings
import SourceModel.Toml.Value

namespace SourceModel.Toml

def digit? (base : Nat) (c : Char) : Option Nat := (hexDigit? c).filter (· < base)

def digits? (base : Nat) (cs : List Char) : Option (List Nat) :=
  let groups := Text.splitAll '_' cs
  if groups.any List.isEmpty then none else groups.flatten.mapM (digit? base)

def numberOf (base : Nat) (digits : List Nat) : Nat :=
  digits.foldl (fun n digit => base * n + digit) 0

def natural? (base : Nat) (cs : List Char) : Option Nat := (digits? base cs).map (numberOf base)

def wholeDigits? (cs : List Char) : Option (List Nat) :=
  match digits? 10 cs with
  | some (0 :: _ :: _) => none
  | digits => digits

def splitSign : List Char → Bool × List Char
  | '-' :: rest => (true, rest)
  | '+' :: rest => (false, rest)
  | cs => (false, cs)

def breakAt (condition : Char → Bool) (cs : List Char) : List Char × Option (List Char) :=
  let before := cs.takeWhile fun c => !condition c
  match cs.drop before.length with
  | [] => (before, none)
  | _ :: behind => (before, some behind)

def signed (negative : Bool) (n : Nat) : Int := if negative then -(n : Int) else n

def integer? : List Char → Option Int
  | '0' :: 'x' :: rest => (natural? 16 rest).map Int.ofNat
  | '0' :: 'o' :: rest => (natural? 8 rest).map Int.ofNat
  | '0' :: 'b' :: rest => (natural? 2 rest).map Int.ofNat
  | cs =>
    let (negative, rest) := splitSign cs
    (wholeDigits? rest).map fun digits => signed negative (numberOf 10 digits)

def isHexDigit (c : Char) : Bool := (hexDigit? c).isSome

def underscoresBetweenDigits (cs : List Char) : Bool :=
  let groups := Text.splitAll '_' cs
  (groups.drop 1).all (fun group => group.head?.any isHexDigit) &&
    groups.dropLast.all fun group => group.getLast?.any isHexDigit

def isUnderscored (cs : List Char) : Bool :=
  let whole := cs.takeWhile Char.isDigit
  let tail := cs.drop whole.length
  whole.head? != some '0' && tail.head? == some '_' &&
    !tail.any (fun c => c == ' ' || c == '.' || c == 'e' || c == 'E') &&
    underscoresBetweenDigits cs

/-- The token has the form of an integer and need not write one: it is the mark of a base alone, or
it has underscores between digits, and is not read any further. -/
def isHollow : List Char → Bool
  | ['0', 'x'] => true
  | ['0', 'o'] => true
  | ['0', 'b'] => true
  | cs => isUnderscored (splitSign cs).2

def exponent? : Option (List Char) → Option Int
  | none => some 0
  | some cs =>
    let (negative, rest) := splitSign cs
    (natural? 10 rest).map (signed negative)

def float? (cs : List Char) : Option FloatLiteral :=
  let (negative, rest) := splitSign cs
  if rest = "inf".toList then some (.infinite negative)
  else if rest = "nan".toList then some .notANumber
  else
    let (mantissa, power) := breakAt (fun c => c == 'e' || c == 'E') rest
    let (whole, fraction) := breakAt (· == '.') mantissa
    if power.isNone && fraction.isNone then none
    else do
      let wholeDigits ← wholeDigits? whole
      let fractionDigits ← (fraction.map (digits? 10)).getD (some [])
      let exponent ← exponent? power
      some (.decimal negative (numberOf 10 (wholeDigits ++ fractionDigits))
        (exponent - fractionDigits.length))

end SourceModel.Toml
