import SourceModel.Model.SourceFile
import SourceModel.Proofs.PathComponents
import SourceModel.Proofs.QualifiedName

namespace SourceModel
open Storage Storage.Component

namespace SourceFile

def slashed (name : String) : String :=
  String.ofList (name.toList.map fun c => if c = '\\' then '/' else c)

def segments (name : String) : List String :=
  ((components (slashed name)).filter (· ≠ .root)).map Component.text

def EndsInSlash (name : String) : Prop := (slashed name).toList.getLast? = some '/'

instance (name : String) : Decidable (EndsInSlash name) := inferInstanceAs (Decidable (_ = _))

theorem texts_componentsOfPieces {pieces : List (List Char)} (plain : ['.'] ∉ pieces) :
    (componentsOfPieces pieces).map Component.text =
      (pieces.filter fun piece => !piece.isEmpty).map String.ofList := by
  induction pieces with
  | nil => rfl
  | cons piece rest ih =>
    rw [List.mem_cons, not_or] at plain
    have others := ih plain.2
    rw [componentsOfPieces] at others ⊢
    by_cases empty : piece = []
    · rw [empty]
      exact others
    · have some : ∃ c, ofPiece? piece = some c ∧ c.text = String.ofList piece := by
        unfold ofPiece?
        rw [if_neg (not_or.mpr ⟨empty, Ne.symm plain.1⟩)]
        split
        · rename_i up
          exact ⟨_, rfl, by rw [up]; rfl⟩
        · exact ⟨_, rfl, rfl⟩
      obtain ⟨c, stands, spelled⟩ := some
      rw [List.filterMap_cons_some stands, List.map_cons, others, spelled,
        List.filter_cons_of_pos (by simpa using empty), List.map_cons]

theorem segments_eq {name : String} (plain : ['.'] ∉ pieces (slashed name)) :
    segments name = ((pieces (slashed name)).filter fun piece => !piece.isEmpty).map
      String.ofList := by
  have start : (beginning (pieces (slashed name))).filter (· ≠ .root) = [] := by
    cases split : pieces (slashed name) with
    | nil => rfl
    | cons first rest =>
      have noDot : first ≠ ['.'] := by
        rintro rfl
        exact plain (by rw [split]; exact List.mem_cons_self)
      rw [beginning, if_neg noDot]
      split <;> rfl
  have rootFree : ∀ c ∈ componentsOfPieces (pieces (slashed name)), decide (c ≠ .root) = true := by
    intro c mem
    refine decide_eq_true ?_
    rintro rfl
    exact not_isPiece_root (isPiece_of_mem_componentsOfPieces mem)
  rw [segments, components, List.filter_append, start, List.nil_append,
    List.filter_eq_self.mpr rootFree, texts_componentsOfPieces plain]

theorem splitAll_concat_of_notMem {separator : Char} {last : List Char} (before : List Char)
    (free : separator ∉ last) :
    Text.splitAll separator (before ++ separator :: last) =
      Text.splitAll separator before ++ [last] := by
  have append := Text.splitAll_append separator before last
  rwa [Text.splitAll_of_notMem free, List.append_assoc, List.singleton_append] at append

/-- Behind its directories a name has one more segment, unless it ends in a slash. -/
theorem segments_cases {name : String} (ne : name ≠ "") (plain : ['.'] ∉ pieces (slashed name)) :
    EndsInSlash name ∧ segments name = directories name ∨
      ¬ EndsInSlash name ∧ ∃ last, segments name = directories name ++ [last] := by
  have chars : (slashed name).toList = name.toList.map fun c => if c = '\\' then '/' else c :=
    String.toList_ofList
  rw [segments_eq plain, directories, ← chars, pieces]
  unfold EndsInSlash
  cases split : Text.splitLast? '/' (slashed name).toList with
  | none =>
    have free := Text.splitLast?_eq_none_iff.mp split
    have some : (slashed name).toList ≠ [] := by
      rw [chars, ne_eq, List.map_eq_nil_iff, String.toList_eq_nil_iff]
      exact ne
    refine .inr ⟨fun ends => free (List.mem_of_getLast? ends), slashed name, ?_⟩
    rw [Text.splitAll_of_notMem free, List.filter_cons_of_pos (by simpa using some)]
    simp
  | some parts =>
    obtain ⟨directory, last⟩ := parts
    obtain ⟨whole, free⟩ := Text.eq_of_splitLast? split
    rw [whole, splitAll_concat_of_notMem directory free, List.filter_append]
    by_cases empty : last = []
    · subst empty
      exact .inl ⟨by simp, by simp⟩
    · obtain ⟨c, rest, rfl⟩ := List.exists_cons_of_ne_nil empty
      refine .inr ⟨fun ends => free (List.mem_of_getLast? ?_), String.ofList (c :: rest), ?_⟩
      · simpa [List.getLast?_append, List.getLast?_cons_cons] using ends
      · rw [List.filter_cons_of_pos rfl, List.map_append]
        simp

theorem ne_empty_of_mem_directories {name directory : String}
    (mem : directory ∈ directories name) : directory ≠ "" := by
  unfold directories at mem
  split at mem
  · cases mem
  · obtain ⟨segment, kept, rfl⟩ := List.mem_map.mp mem
    have some := (List.mem_filter.mp kept).2
    rintro empty
    rw [← String.toList_inj, String.toList_ofList] at empty
    simp [empty] at some

theorem package?_eq (file : SourceFile) :
    file.package? = if directories file.name = [] then none
      else some (Text.joinWith "." (directories file.name)) := by
  rw [package?]
  cases named : directories file.name with
  | nil => rfl
  | cons first rest =>
    have some : first ≠ "" := ne_empty_of_mem_directories (named ▸ List.mem_cons_self)
    have joined : Text.joinWith "." (first :: rest) ≠ "" := by
      cases rest with
      | nil => exact some
      | cons next rest => simp [Text.joinWith_cons_cons, some]
    rw [if_neg joined, if_neg (List.cons_ne_nil _ _)]

theorem segments_eq_pathNames {name : String} (inner : isInnerName name = true)
    (forward : '\\' ∉ name.toList) (plain : ['.'] ∉ pieces (slashed name)) :
    components name = (pathNames name).map .name ∧ segments name = pathNames name := by
  have same : slashed name = name := by
    rw [← String.toList_inj, slashed, String.toList_ofList]
    refine (List.map_congr_left fun c mem => if_neg ?_).trans (List.map_id _)
    rintro rfl
    exact forward mem
  rw [same] at plain
  have noDot : Component.here ∉ components name := by
    intro mem
    have start := beginning_of_isInnerName inner
    rw [if_pos mem] at start
    cases split : pieces name with
    | nil => exact absurd split (pieces_ne_nil name)
    | cons first rest =>
      rw [split] at start plain
      have different : first ≠ ['.'] := fun dot => plain (dot ▸ List.mem_cons_self)
      rw [beginning, if_neg different] at start
      split at start <;> cases start
  have named : components name = (pathNames name).map .name := by
    rw [← componentsOfPieces_of_isInnerName inner, components, beginning_of_isInnerName inner,
      if_neg noDot, List.nil_append]
  refine ⟨named, ?_⟩
  rw [segments, same, named, List.filter_eq_self.mpr (by simp), List.map_map]
  exact List.map_id _

/-- The package of a file is made of all segments of its name but the last, and of all of them
where the name ends in a slash or a backslash. If no backslash stands in the name, the segments are
the names by which a path below a root goes on. -/
theorem package?_eq_segments (file : SourceFile) (inner : isInnerName file.name = true)
    (plain : ['.'] ∉ pieces (slashed file.name)) :
    (¬ EndsInSlash file.name → file.package? = if (segments file.name).length = 1 then none
      else some (Text.joinWith "." (segments file.name).dropLast)) ∧
    (EndsInSlash file.name → file.package? = if segments file.name = [] then none
      else some (Text.joinWith "." (segments file.name))) ∧
    ('\\' ∉ file.name.toList → segments file.name = pathNames file.name ∧
      ∀ root, components (joinPath root file.name) =
        components root ++ (pathNames file.name).map .name) := by
  have ne : file.name ≠ "" := by
    intro empty
    rw [empty] at inner
    cases inner
  refine ⟨fun inside => ?_, fun ends => ?_, fun forward => ?_⟩
  · rcases segments_cases ne plain with ⟨ends, -⟩ | ⟨-, last, split⟩
    · exact absurd ends inside
    · rw [package?_eq, split, List.dropLast_concat]
      by_cases none : directories file.name = []
      · simp [none]
      · rw [if_neg none, if_neg]
        simpa using none
  · rcases segments_cases ne plain with ⟨-, same⟩ | ⟨inside, -⟩
    · rw [package?_eq, same]
    · exact absurd ends inside
  · obtain ⟨named, same⟩ := segments_eq_pathNames inner forward plain
    refine ⟨same, fun root => ?_⟩
    have noDot : Component.here ∉ components file.name := by simp [named]
    rw [components_joinPath_of_isInnerName inner, if_neg fun both => noDot both.2, List.append_nil]

theorem package?_eq_segments_mixed :
    (isInnerName "com\\acme//billing/User.java" = true ∧
      ['.'] ∉ pieces (slashed "com\\acme//billing/User.java") ∧
      ¬ EndsInSlash "com\\acme//billing/User.java" ∧
      segments "com\\acme//billing/User.java" = ["com", "acme", "billing", "User.java"] ∧
      (SourceFile.mk "com\\acme//billing/User.java" ∅ []).package? = some "com.acme.billing") ∧
    (isInnerName "com/acme\\" = true ∧ ['.'] ∉ pieces (slashed "com/acme\\") ∧
      EndsInSlash "com/acme\\" ∧
      (SourceFile.mk "com/acme\\" ∅ []).package? = some "com.acme") ∧
    isInnerName "com/acme/User.java" = true ∧ ['.'] ∉ pieces (slashed "com/acme/User.java") ∧
      '\\' ∉ "com/acme/User.java".toList ∧
      ∀ root, components (joinPath root "com/acme/User.java") =
        components root ++ (pathNames "com/acme/User.java").map .name := by
  have mixedInner : isInnerName "com\\acme//billing/User.java" = true := by decide +kernel
  have mixedPlain : ['.'] ∉ pieces (slashed "com\\acme//billing/User.java") := by decide +kernel
  have inside : ¬ EndsInSlash "com\\acme//billing/User.java" := by decide +kernel
  have mixed : segments "com\\acme//billing/User.java" =
      ["com", "acme", "billing", "User.java"] := by
    decide +kernel
  have directoryInner : isInnerName "com/acme\\" = true := by decide +kernel
  have directoryPlain : ['.'] ∉ pieces (slashed "com/acme\\") := by decide +kernel
  have ends : EndsInSlash "com/acme\\" := by decide +kernel
  have directory : segments "com/acme\\" = ["com", "acme"] := by decide +kernel
  have inner : isInnerName "com/acme/User.java" = true := by decide +kernel
  have plain : ['.'] ∉ pieces (slashed "com/acme/User.java") := by decide +kernel
  have forward : '\\' ∉ "com/acme/User.java".toList := by decide
  have inPackage := (package?_eq_segments ⟨"com\\acme//billing/User.java", ∅, []⟩ mixedInner
    mixedPlain).1 inside
  have asPackage := (package?_eq_segments ⟨"com/acme\\", ∅, []⟩ directoryInner
    directoryPlain).2.1 ends
  have placed := (package?_eq_segments ⟨"com/acme/User.java", ∅, []⟩ inner plain).2.2 forward
  refine ⟨⟨mixedInner, mixedPlain, inside, mixed, ?_⟩, ⟨directoryInner, directoryPlain, ends, ?_⟩,
    inner, plain, forward, placed.2⟩
  · rw [inPackage, mixed]
    rfl
  · rw [asPackage, directory]
    rfl

theorem package?_apart_from_directories :
    (isInnerName "com\\acme\\User.java" = true ∧
      pathNames "com\\acme\\User.java" = ["com\\acme\\User.java"] ∧
      (SourceFile.mk "com\\acme\\User.java" ∅ []).package? = some "com.acme") ∧
    isInnerName "./User.java" = true ∧ pathNames "./User.java" = ["User.java"] ∧
      (SourceFile.mk "./User.java" ∅ []).package? = some "." := by
  refine ⟨⟨?_, ?_, ?_⟩, ?_, ?_, ?_⟩
  all_goals decide +kernel

end SourceFile

end SourceModel
