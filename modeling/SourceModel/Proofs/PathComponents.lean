import SourceModel.Storage.Writer

namespace SourceModel.Text

theorem notMem_of_mem_splitAll {separator : Char} {piece cs : List Char}
    (own : piece ∈ splitAll separator cs) : separator ∉ piece := by
  induction cs generalizing piece with
  | nil =>
    obtain rfl : piece = [] := by simpa [splitAll] using own
    exact List.not_mem_nil
  | cons c rest ih =>
    unfold splitAll at own
    split at own
    · rcases List.mem_cons.mp own with rfl | own
      · exact List.not_mem_nil
      · exact ih own
    · rename_i different
      cases pieces : splitAll separator rest with
      | nil => exact absurd pieces (splitAll_ne_nil _ _)
      | cons first others =>
        rw [pieces] at own ih
        rcases List.mem_cons.mp own with rfl | own
        · rw [List.mem_cons, not_or]
          exact ⟨Ne.symm different, ih List.mem_cons_self⟩
        · exact ih (List.mem_cons_of_mem _ own)

theorem splitAll_of_notMem {separator : Char} {cs : List Char} (free : separator ∉ cs) :
    splitAll separator cs = [cs] := by
  induction cs with
  | nil => rfl
  | cons c rest ih =>
    rw [List.mem_cons, not_or] at free
    rw [splitAll, if_neg (Ne.symm free.1), ih free.2]

end SourceModel.Text

namespace SourceModel.Storage

namespace Component

def IsPiece (component : Component) : Prop :=
  '/' ∉ component.text.toList ∧ ofPiece? component.text.toList = some component

theorem not_isPiece_root : ¬ IsPiece .root := by
  rintro ⟨free, -⟩
  exact free (by decide)

theorem not_isPiece_here : ¬ IsPiece .here := by
  rintro ⟨-, stands⟩
  cases stands

theorem isPiece_of_ofPiece? {piece : List Char} {component : Component}
    (stands : ofPiece? piece = some component) (free : '/' ∉ piece) : component.IsPiece := by
  have spelled : component.text.toList = piece := by
    unfold ofPiece? at stands
    split at stands
    · cases stands
    · split at stands
      · rename_i up
        obtain rfl := Option.some.inj stands
        rw [up]
        rfl
      · obtain rfl := Option.some.inj stands
        exact String.toList_ofList
  rw [IsPiece, spelled]
  exact ⟨free, stands⟩

end Component

open Component

/-- Only the first component can be other than a piece between slashes. -/
def Orderly : List Component → Prop
  | [] => True
  | first :: rest => (first = .root ∨ first = .here ∨ first.IsPiece) ∧ ∀ c ∈ rest, c.IsPiece

namespace Orderly

theorem of_isPiece {cs : List Component} (all : ∀ c ∈ cs, c.IsPiece) : Orderly cs := by
  cases cs with
  | nil => trivial
  | cons first rest =>
    exact ⟨.inr (.inr (all first List.mem_cons_self)), fun c mem =>
      all c (List.mem_cons_of_mem _ mem)⟩

theorem of_isPrefix {cs others : List Component} (orderly : Orderly others)
    (isPrefix : cs <+: others) : Orderly cs := by
  obtain ⟨after, rfl⟩ := isPrefix
  cases cs with
  | nil => trivial
  | cons first rest => exact ⟨orderly.1, fun c mem => orderly.2 c (List.mem_append_left _ mem)⟩

theorem isPiece_of_append {before after : List Component} (orderly : Orderly (before ++ after))
    (ne : before ≠ []) : ∀ c ∈ after, c.IsPiece := by
  cases before with
  | nil => exact absurd rfl ne
  | cons first rest => exact fun c mem => orderly.2 c (List.mem_append_right _ mem)

end Orderly

theorem isPiece_of_mem_componentsOfPieces {path : String} {component : Component}
    (mem : component ∈ componentsOfPieces (pieces path)) : component.IsPiece := by
  obtain ⟨piece, own, stands⟩ := List.mem_filterMap.mp mem
  exact isPiece_of_ofPiece? stands (Text.notMem_of_mem_splitAll own)

theorem beginning_cases (pieces : List (List Char)) :
    beginning pieces = [] ∨ beginning pieces = [.root] ∨ beginning pieces = [.here] := by
  cases pieces with
  | nil => exact .inl rfl
  | cons first rest =>
    rw [beginning]
    split
    · exact .inr (.inl rfl)
    · split
      · exact .inr (.inr rfl)
      · exact .inl rfl

theorem orderly_components (path : String) : Orderly (components path) := by
  have inner : ∀ c ∈ componentsOfPieces (pieces path), c.IsPiece :=
    fun c mem => isPiece_of_mem_componentsOfPieces mem
  rw [components]
  rcases beginning_cases (pieces path) with start | start | start <;> rw [start]
  · exact .of_isPiece inner
  · exact ⟨.inl rfl, inner⟩
  · exact ⟨.inr (.inl rfl), inner⟩

theorem pieces_joinWith {texts : List String} (ne : texts ≠ [])
    (free : ∀ text ∈ texts, '/' ∉ text.toList) :
    pieces (Text.joinWith "/" texts) = texts.map String.toList := by
  induction texts with
  | nil => exact absurd rfl ne
  | cons text rest ih =>
    have alone : pieces text = [text.toList] :=
      Text.splitAll_of_notMem (free text List.mem_cons_self)
    cases rest with
    | nil => exact alone
    | cons next rest =>
      have others := ih (List.cons_ne_nil _ _) fun t mem => free t (List.mem_cons_of_mem _ mem)
      rw [Text.joinWith_cons_cons, pieces_append_slash, alone, others]
      rfl

theorem componentsOfPieces_map_text {cs : List Component} (all : ∀ c ∈ cs, c.IsPiece) :
    componentsOfPieces ((cs.map Component.text).map String.toList) = cs := by
  induction cs with
  | nil => rfl
  | cons c rest ih =>
    have others := ih fun c' mem => all c' (List.mem_cons_of_mem _ mem)
    rw [componentsOfPieces] at others
    simp only [List.map_cons, componentsOfPieces]
    rw [List.filterMap_cons_some (all c List.mem_cons_self).2, others]

theorem free_texts {cs : List Component} (all : ∀ c ∈ cs, '/' ∉ c.text.toList) :
    ∀ text ∈ cs.map Component.text, '/' ∉ text.toList := by
  intro text mem
  obtain ⟨c, own, rfl⟩ := List.mem_map.mp mem
  exact all c own

theorem components_pathOf_root {rest : List Component} (inner : ∀ c ∈ rest, c.IsPiece) :
    components (pathOf (.root :: rest)) = .root :: rest := by
  have split : pieces (pathOf (.root :: rest)) =
      [] :: pieces (Text.joinWith "/" (rest.map Component.text)) := by
    have := pieces_append_slash "" (Text.joinWith "/" (rest.map Component.text))
    rwa [String.empty_append] at this
  rw [components, split, beginning, if_pos ⟨rfl, pieces_ne_nil _⟩]
  refine congrArg (Component.root :: ·) ?_
  cases rest with
  | nil => rfl
  | cons next rest =>
    rw [pieces_joinWith (by simp) (free_texts fun c mem => (inner c mem).1)]
    exact componentsOfPieces_map_text inner

theorem beginning_of_isPiece {first : Component} (piece : first.IsPiece)
    (others : List (List Char)) : beginning (first.text.toList :: others) = [] := by
  have stands := piece.2
  rw [beginning, if_neg, if_neg]
  · intro dot
    rw [dot] at stands
    cases stands
  · rintro ⟨empty, -⟩
    rw [empty] at stands
    cases stands

theorem components_pathOf {cs : List Component} (orderly : Orderly cs) :
    components (pathOf cs) = cs := by
  cases cs with
  | nil => rfl
  | cons first rest =>
    obtain ⟨start, inner⟩ := orderly
    by_cases root : first = .root
    · subst root
      exact components_pathOf_root inner
    · have made : pathOf (first :: rest) =
          Text.joinWith "/" ((first :: rest).map Component.text) := by
        cases first <;> first | rfl | exact absurd rfl root
      have free : ∀ c ∈ first :: rest, '/' ∉ c.text.toList := by
        intro c mem
        rcases List.mem_cons.mp mem with rfl | mem
        · rcases start with rfl | rfl | piece
          · exact absurd rfl root
          · decide
          · exact piece.1
        · exact (inner c mem).1
      rw [components, made, pieces_joinWith (by simp) (free_texts free)]
      -- A dot in front is no piece between slashes, so it is added to the components of the pieces.
      rcases start with rfl | rfl | piece
      · exact absurd rfl root
      · exact congrArg (Component.here :: ·) (componentsOfPieces_map_text inner)
      · have all : ∀ c ∈ first :: rest, c.IsPiece := by
          intro c mem
          rcases List.mem_cons.mp mem with rfl | mem
          · exact piece
          · exact inner c mem
        rw [componentsOfPieces_map_text all, List.map_cons, List.map_cons,
          beginning_of_isPiece piece, List.nil_append]

theorem components_of_parent? {path above : String} (found : parent? path = some above) :
    components above = (components path).dropLast := by
  have made : above = pathOf (components path).dropLast := by
    unfold parent? at found
    split at found
    · cases found
    · cases found
    · exact (Option.some.inj found).symm
  rw [made]
  exact components_pathOf ((orderly_components path).of_isPrefix (List.dropLast_prefix _))

def Component.name? : Component → Option String
  | .name text => some text
  | _ => none

def pathNames (path : String) : List String := (components path).filterMap Component.name?

theorem root_mem_components_iff (path : String) :
    Component.root ∈ components path ↔ path.toList.head? = some '/' := by
  have inner : Component.root ∉ componentsOfPieces (pieces path) := fun mem =>
    not_isPiece_root (isPiece_of_mem_componentsOfPieces mem)
  rw [components, List.mem_append, or_iff_left inner, pieces]
  cases path.toList with
  | nil => decide
  | cons c rest =>
    unfold Text.splitAll
    split
    · rename_i slash
      simp [beginning, Text.splitAll_ne_nil, slash]
    · rename_i different
      cases Text.splitAll '/' rest with
      | nil => simp [beginning, different]
      | cons piece others => simp [beginning, different]

theorem map_name_of_isName {cs : List Component} (all : ∀ c ∈ cs, ∃ text, c = .name text) :
    (cs.filterMap Component.name?).map .name = cs := by
  induction cs with
  | nil => rfl
  | cons c rest ih =>
    obtain ⟨⟨text, rfl⟩, others⟩ := List.forall_mem_cons.mp all
    simp [Component.name?, ih others]

section InnerNames

variable {name : String} (inner : isInnerName name = true)

include inner

theorem staysInside_of_isInnerName : ∀ c ∈ components name, c.staysInside = true :=
  List.all_eq_true.mp (Bool.and_eq_true_iff.mp inner).2

theorem beginning_of_isInnerName :
    beginning (pieces name) = if Component.here ∈ components name then [.here] else [] := by
  have pieceHere : Component.here ∉ componentsOfPieces (pieces name) := fun mem =>
    not_isPiece_here (isPiece_of_mem_componentsOfPieces mem)
  rw [components]
  rcases beginning_cases (pieces name) with start | start | start
  · rw [start, List.nil_append, if_neg pieceHere]
  · have root : Component.root ∈ components name := by
      rw [components, start]
      exact List.mem_cons_self
    exact absurd (staysInside_of_isInnerName inner _ root) (by decide)
  · rw [start, if_pos (List.mem_append_left _ List.mem_cons_self)]

theorem componentsOfPieces_of_isInnerName :
    componentsOfPieces (pieces name) = (pathNames name).map .name := by
  have named : ∀ c ∈ componentsOfPieces (pieces name), ∃ text, c = .name text := by
    intro c mem
    have stays := staysInside_of_isInnerName inner c (List.mem_append_right _ mem)
    have piece := isPiece_of_mem_componentsOfPieces mem
    cases c with
    | name text => exact ⟨text, rfl⟩
    | here => exact absurd piece not_isPiece_here
    | root => cases stays
    | up => cases stays
  have front : (beginning (pieces name)).filterMap Component.name? = [] := by
    rcases beginning_cases (pieces name) with start | start | start <;> rw [start] <;> rfl
  rw [pathNames, components, List.filterMap_append, front, List.nil_append,
    map_name_of_isName named]

/-- Joining adds the names behind the components of the directory. Only when there is no directory
does a dot in front stay. -/
theorem components_joinPath_of_isInnerName (path : String) :
    components (joinPath path name) =
      components path ++ (if path = "" ∧ Component.here ∈ components name then [.here] else []) ++
        (pathNames name).map .name := by
  by_cases none : path = ""
  · subst none
    have start := beginning_of_isInnerName inner
    rw [show joinPath "" name = name from rfl, show components "" = [] from rfl, List.nil_append]
    simp only [true_and]
    rw [← start, ← componentsOfPieces_of_isInnerName inner, components]
  · rw [components_joinPath none, componentsOfPieces_of_isInnerName inner,
      if_neg fun both => none both.1, List.append_nil]

theorem exists_components_joinPath (path : String) :
    ∃ cs, components (joinPath path name) = components path ++ cs ∧
      ∀ c ∈ cs, c.staysInside = true := by
  rw [components_joinPath_of_isInnerName inner, List.append_assoc]
  refine ⟨_, rfl, fun c mem => ?_⟩
  rcases List.mem_append.mp mem with dot | named
  · split at dot
    · obtain rfl := List.mem_singleton.mp dot
      rfl
    · cases dot
  · obtain ⟨text, -, rfl⟩ := List.mem_map.mp named
    rfl

end InnerNames

end SourceModel.Storage
