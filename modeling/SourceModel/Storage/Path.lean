import SourceModel.Text.Joined
import SourceModel.Text.Split

namespace SourceModel.Storage

inductive Component
  | root
  | here
  | up
  | name (name : String)
  deriving DecidableEq, Repr, Inhabited

namespace Component

def text : Component → String
  | root => "/"
  | here => "."
  | up => ".."
  | name text => text

def staysInside : Component → Bool
  | here => true
  | name _ => true
  | _ => false

/-- The component that a piece between slashes stands for, if it stands for one wherever it is: a
dot stands for one only in front. -/
def ofPiece? (piece : List Char) : Option Component :=
  if piece = [] ∨ piece = ['.'] then none
  else if piece = ['.', '.'] then some up
  else some (name (String.ofList piece))

end Component

def componentsOfPieces (pieces : List (List Char)) : List Component :=
  pieces.filterMap Component.ofPiece?

def beginning : List (List Char) → List Component
  | [] => []
  | first :: rest =>
    if first = [] ∧ rest ≠ [] then [.root] else if first = ['.'] then [.here] else []

def pieces (path : String) : List (List Char) := Text.splitAll '/' path.toList

def components (path : String) : List Component :=
  beginning (pieces path) ++ componentsOfPieces (pieces path)

def endsAsDirectory (path : String) : Bool :=
  match (pieces path).getLast? with
  | some [] => true
  | some ['.'] => true
  | _ => false

def endsInDot (path : String) : Bool :=
  ((pieces path).filter fun piece => !piece.isEmpty).getLast? == some ['.']

def pathOf : List Component → String
  | .root :: rest => "/" ++ Text.joinWith "/" (rest.map Component.text)
  | components => Text.joinWith "/" (components.map Component.text)

def parent? (path : String) : Option String :=
  match (components path).getLast? with
  | none => none
  | some .root => none
  | some _ => some (pathOf (components path).dropLast)

def joinPath (path relative : String) : String :=
  if path = "" then relative
  else if path.toList.getLast? = some '/' then path ++ relative
  else path ++ "/" ++ relative

theorem pieces_ne_nil (path : String) : pieces path ≠ [] := Text.splitAll_ne_nil _ _

theorem componentsOfPieces_append (before after : List (List Char)) :
    componentsOfPieces (before ++ after) = componentsOfPieces before ++ componentsOfPieces after :=
  List.filterMap_append

theorem beginning_append {before after : List (List Char)} (ne : before ≠ [])
    (notEmpty : before ≠ [[]]) : beginning (before ++ after) = beginning before := by
  cases before with
  | nil => exact absurd rfl ne
  | cons first rest =>
    by_cases h : first = []
    · subst h
      have : rest ≠ [] := fun e => notEmpty (by rw [e])
      simp [beginning, this]
    · simp [beginning, h]

theorem beginning_append_congr {before after other : List (List Char)} (ne : before ≠ [])
    (ha : after ≠ []) (ho : other ≠ []) :
    beginning (before ++ after) = beginning (before ++ other) := by
  cases before with
  | nil => exact absurd rfl ne
  | cons first rest => simp [beginning, ha, ho]

theorem eq_empty_of_pieces {path : String} (h : pieces path = [[]]) : path = "" := by
  have joined := Text.intercalate_splitAll '/' path.toList
  rw [pieces] at h
  rw [h] at joined
  exact String.toList_eq_nil_iff.1 (by simpa [List.intercalate] using joined.symm)

theorem pieces_append_slash (path relative : String) :
    pieces (path ++ "/" ++ relative) = pieces path ++ pieces relative := by
  simp only [pieces, String.toList_append]
  exact Text.splitAll_append _ _ _

theorem components_append_slash {path : String} (ne : path ≠ "") (relative : String) :
    components (path ++ "/" ++ relative) =
      components path ++ componentsOfPieces (pieces relative) := by
  simp only [components, pieces_append_slash, componentsOfPieces_append]
  rw [beginning_append (pieces_ne_nil _) fun h => ne (eq_empty_of_pieces h), List.append_assoc]

theorem components_append_of_slash {path : String} (h : path.toList.getLast? = some '/')
    (relative : String) :
    components (path ++ relative) = components path ++ componentsOfPieces (pieces relative) := by
  obtain ⟨before, split⟩ := List.getLast?_eq_some_iff.1 h
  have own : path = String.ofList before ++ "/" := by
    rw [← String.toList_inj]
    simp [split]
  have alone : pieces path = pieces (String.ofList before) ++ [[]] := by
    have := pieces_append_slash (String.ofList before) ""
    rw [String.append_empty, ← own] at this
    rw [this]
    rfl
  have both : pieces (path ++ relative) = pieces (String.ofList before) ++ pieces relative := by
    rw [own, pieces_append_slash]
  simp only [components, alone, both, componentsOfPieces_append]
  rw [beginning_append_congr (pieces_ne_nil _) (pieces_ne_nil relative)
    (List.cons_ne_nil [] [])]
  simp [componentsOfPieces, Component.ofPiece?]

theorem components_joinPath {path : String} (ne : path ≠ "") (relative : String) :
    components (joinPath path relative) =
      components path ++ componentsOfPieces (pieces relative) := by
  unfold joinPath
  rw [if_neg ne]
  split
  · rename_i h
    exact components_append_of_slash h relative
  · exact components_append_slash ne relative

end SourceModel.Storage
