import SourceModel.Text.Joined

namespace SourceModel

/-- What rendering a node gives. Nothing differs from the empty text: a separator is written beside
the empty text and never beside nothing. -/
inductive Fragment
  | absent
  | present (text : String)
  deriving DecidableEq, Repr, Inhabited

namespace Fragment

def text? : Fragment → Option String
  | absent => none
  | present text => some text

def ofOption : Option String → Fragment
  | none => absent
  | some text => present text

def isPresent (fragment : Fragment) : Bool := fragment.text?.isSome

def isAbsent (fragment : Fragment) : Bool := fragment.text?.isNone

def textOrEmpty (fragment : Fragment) : String := fragment.text?.getD ""

def map (f : String → String) : Fragment → Fragment
  | absent => absent
  | present text => present (f text)

def orElse : Fragment → Fragment → Fragment
  | absent, alternative => alternative
  | present text, _ => present text

def texts (fragments : List Fragment) : List String := fragments.filterMap text?

end Fragment

structure Joiner where
  separator : String
  opening : String := ""
  closing : String := ""
  deriving DecidableEq, Repr

namespace Joiner

def join (joiner : Joiner) (fragments : List Fragment) : Fragment :=
  match Fragment.texts fragments with
  | [] => .absent
  | text :: rest =>
    .present (joiner.opening ++ Text.joinWith joiner.separator (text :: rest) ++ joiner.closing)

/-- Reads items up to and including the first error: the fragments before it, or the error, and
the items left unread. -/
def takeFragments {ε : Type} :
    List (Except ε Fragment) → Except ε (List Fragment) × List (Except ε Fragment)
  | [] => (.ok [], [])
  | .error e :: rest => (.error e, rest)
  | .ok fragment :: rest =>
    match takeFragments rest with
    | (.ok fragments, unread) => (.ok (fragment :: fragments), unread)
    | (.error e, unread) => (.error e, unread)

def tryJoin {ε : Type} (joiner : Joiner) (items : List (Except ε Fragment)) :
    Except ε Fragment × List (Except ε Fragment) :=
  match takeFragments items with
  | (.ok fragments, unread) => (.ok (joiner.join fragments), unread)
  | (.error e, unread) => (.error e, unread)

theorem join_eq_absent_iff (joiner : Joiner) (fragments : List Fragment) :
    joiner.join fragments = .absent ↔ ∀ fragment ∈ fragments, fragment = .absent := by
  unfold join
  constructor
  · intro h
    split at h
    · rename_i none
      intro fragment mem
      rw [Fragment.texts, List.filterMap_eq_nil_iff] at none
      cases fragment with
      | absent => rfl
      | present text => exact absurd (none _ mem) (by simp [Fragment.text?])
    · cases h
  · intro h
    have none : Fragment.texts fragments = [] := by
      rw [Fragment.texts, List.filterMap_eq_nil_iff]
      intro fragment mem
      rw [h fragment mem]
      rfl
    rw [none]

end Joiner

namespace Fragment

def join (separator : String) (fragments : List Fragment) : Fragment :=
  Joiner.join ⟨separator, "", ""⟩ fragments

def joinWrapped (separator opening closing : String) (fragments : List Fragment) : Fragment :=
  (join separator fragments).map fun text => opening ++ text ++ closing

def tryJoin {ε : Type} (separator : String) (items : List (Except ε Fragment)) :
    Except ε Fragment × List (Except ε Fragment) :=
  Joiner.tryJoin ⟨separator, "", ""⟩ items

theorem join_cons_absent (separator : String) (rest : List Fragment) :
    join separator (absent :: rest) = join separator rest := rfl

theorem join_cons_present (separator text : String) (rest : List Fragment) :
    join separator (present text :: rest) =
      match join separator rest with
      | absent => present text
      | present others => present (text ++ separator ++ others) := by
  have first : texts (present text :: rest) = text :: texts rest := rfl
  cases others : texts rest with
  | nil => simp [join, Joiner.join, first, others]
  | cons next more => simp [join, Joiner.join, first, others, Text.joinWith_cons_cons]

end Fragment

end SourceModel
