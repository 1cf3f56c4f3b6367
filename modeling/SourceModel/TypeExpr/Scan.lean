import SourceModel.Model.TypeRef
import SourceModel.Text.Letters

namespace SourceModel.TypeExpr

def isNameStart (c : Char) : Bool := Text.isAlphabetic c || c == '_' || c == '$'

def isNamePart (c : Char) : Bool := Text.isAlphabetic c || Text.isNumeric c || c == '_' || c == '$'

theorem isNamePart_of_isNameStart {c : Char} (h : isNameStart c = true) : isNamePart c = true := by
  simp only [isNameStart, isNamePart, Bool.or_eq_true] at *
  rcases h with (h | h) | h <;> simp [h]

def readIdentifier? : List Char → Option (List Char × List Char)
  | [] => none
  | c :: rest =>
    if isNameStart c then some (c :: rest.takeWhile isNamePart, rest.dropWhile isNamePart)
    else none

/-- Reads what remains of a name behind the first character of one of its identifiers. A dot
belongs to the name only if an identifier follows it. -/
def readNameTail : List Char → List Char × List Char
  | '.' :: c :: rest =>
    if isNameStart c then
      let (name, after) := readNameTail rest
      ('.' :: c :: name, after)
    else ([], '.' :: c :: rest)
  | c :: rest =>
    if isNamePart c then
      let (name, after) := readNameTail rest
      (c :: name, after)
    else ([], c :: rest)
  | [] => ([], [])

def readName? : List Char → Option (List Char × List Char)
  | [] => none
  | c :: rest =>
    if isNameStart c then
      let (name, after) := readNameTail rest
      some (c :: name, after)
    else none

def readWord? (word : String) (cs : List Char) : Option (List Char) :=
  match word.toList.isPrefixOf? cs with
  | some rest => if (rest.head?.any isNamePart) then none else some rest
  | none => none

def readKeyword? (cs : List Char) : Option (BoundKeyword × List Char) :=
  match readWord? BoundKeyword.extend.name cs with
  | some rest => some (.extend, rest)
  | none => (readWord? BoundKeyword.super.name cs).map fun rest => (.super, rest)

def readSpacing? : List Char → Option (List Char)
  | [] => none
  | c :: rest => if Text.isSpacing c then some (Text.skipSpacing rest) else none

theorem append_readNameTail (cs : List Char) : (readNameTail cs).1 ++ (readNameTail cs).2 = cs := by
  fun_induction readNameTail cs <;> simp_all

theorem eq_of_readName? {cs name rest : List Char} (h : readName? cs = some (name, rest)) :
    cs = name ++ rest ∧ name ≠ [] := by
  cases cs with
  | nil => simp [readName?] at h
  | cons c cs =>
    simp only [readName?] at h
    split at h
    · obtain ⟨rfl, rfl⟩ := by simpa using h
      simp [append_readNameTail]
    · cases h

theorem eq_of_readIdentifier? {cs name rest : List Char}
    (h : readIdentifier? cs = some (name, rest)) : cs = name ++ rest ∧ name ≠ [] := by
  cases cs with
  | nil => simp [readIdentifier?] at h
  | cons c cs =>
    simp only [readIdentifier?] at h
    split at h
    · obtain ⟨rfl, rfl⟩ := by simpa using h
      simp [List.takeWhile_append_dropWhile]
    · cases h

end SourceModel.TypeExpr
