import SourceModel.Toml.Strings

namespace SourceModel.Toml

def isBareKey (c : Char) : Bool := c.isAlphanum || c == '_' || c == '-'

def readKey : Reader String := fun cs =>
  let bare := cs.takeWhile isBareKey
  if bare.isEmpty then readLineString cs else some (String.ofList bare, cs.drop bare.length)

structure KeyPath where
  through : List String
  key : String
  deriving DecidableEq, Repr, Inhabited

def KeyPath.inside (outer : String) (path : KeyPath) : KeyPath :=
  ⟨outer :: path.through, path.key⟩

def readPathWithin : Nat → Reader KeyPath
  | 0, _ => none
  | count + 1, cs => do
    let (key, rest) ← readKey (skipBlanks cs)
    match skipBlanks rest with
    | '.' :: behind =>
      let (path, rest) ← readPathWithin count behind
      some (path.inside key, rest)
    | rest => some (⟨[], key⟩, rest)

def pathLimit : Nat := 80

def readPath : Reader KeyPath := readPathWithin pathLimit

end SourceModel.Toml
