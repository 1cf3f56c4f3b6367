import SourceModel.Proofs.StackedText

/-!
# Layout

A text that depends on the formatting is laid out if its rows do not: under every plain formatting
it is made of the same rows, each behind as many units of indentation as the row is deep.
-/

namespace SourceModel

open Text (Unbroken IsLineEnd Stacked)

structure Formatting.IsPlain (formatting : Formatting) : Prop where
  indent : Unbroken formatting.indent
  newline : IsLineEnd formatting.newline

/-- What stands on a line, and how many units of indentation before it. -/
structure Row where
  depth : Nat
  text : String

namespace Row

def placed (unit : String) (depth : Nat) (line : String) : String :=
  if line = "" then "" else Text.repeated unit depth ++ line

def written (unit : String) (row : Row) : String := placed unit row.depth row.text

def deeper (row : Row) : Row := { row with depth := row.depth + 1 }

theorem placed_eq_empty_iff {unit : String} {depth : Nat} {line : String} :
    placed unit depth line = "" ↔ line = "" := by
  unfold placed
  split
  · simp_all
  · simp_all

theorem placed_zero (unit line : String) : placed unit 0 line = line := by
  unfold placed
  split
  · simp_all
  · simp [Text.repeated]

theorem placed_succ (unit : String) (depth : Nat) (line : String) :
    placed unit (depth + 1) line =
      if placed unit depth line = "" then "" else unit ++ placed unit depth line := by
  unfold placed
  split
  · simp
  · simp_all [Text.repeated, String.append_assoc]

theorem placed_empty (depth : Nat) (line : String) : placed "" depth line = line := by
  induction depth with
  | zero => exact placed_zero "" line
  | succ depth ih =>
    rw [placed_succ, ih]
    split
    · simp_all
    · simp

theorem map_written_top (unit : String) (lines : List String) :
    (lines.map (Row.mk 0)).map (Row.written unit) = lines := by
  induction lines with
  | nil => rfl
  | cons line rest ih => rw [List.map_cons, List.map_cons, ih, written, placed_zero]

theorem written_deeper (unit : String) (row : Row) :
    row.deeper.written unit =
      if row.written unit = "" then "" else unit ++ row.written unit :=
  placed_succ unit row.depth row.text

theorem unbroken_written {unit : String} (unbroken : Unbroken unit) {row : Row}
    (text : Unbroken row.text) : Unbroken (row.written unit) := by
  unfold written placed
  split
  · exact Text.Spelled.empty
  · exact (unbroken.repeated row.depth).append text

end Row

/-- What is asked of rows, and of no row that does not end in white space. -/
structure RowRule where
  allows : String → Prop
  visible : ∀ row, Text.EndsVisible row → allows row

namespace RowRule

def any : RowRule := ⟨fun _ => True, fun _ _ => trivial⟩

def endsVisible : RowRule := ⟨Text.EndsVisible, fun _ visible => visible⟩

theorem allows_empty (rule : RowRule) : rule.allows "" :=
  rule.visible "" (by decide)

end RowRule

structure Row.Fits (rule : RowRule) (depth : Nat) (row : Row) : Prop where
  depth_le : row.depth ≤ depth
  unbroken : Unbroken row.text
  allowed : rule.allows row.text

theorem Row.fits_top {rule : RowRule} {depth : Nat} {lines : List String}
    (unbroken : ∀ line ∈ lines, Unbroken line) (allowed : ∀ line ∈ lines, rule.allows line) :
    ∀ row ∈ lines.map (Row.mk 0), row.Fits rule depth := by
  rw [List.forall_mem_map]
  intro line mem
  exact ⟨Nat.zero_le depth, unbroken line mem, allowed line mem⟩

abbrev LineEnds := Formatting → String → Prop

def LineEnds.any : LineEnds := fun _ => IsLineEnd

def LineEnds.own : LineEnds := fun formatting ending => ending = formatting.newline

structure LineEnds.Allows (ends : LineEnds) : Prop where
  newline : ∀ formatting : Formatting, formatting.IsPlain → ends formatting formatting.newline
  isLineEnd : ∀ formatting : Formatting, formatting.IsPlain →
    ∀ ending, ends formatting ending → IsLineEnd ending

theorem LineEnds.any_allows : LineEnds.any.Allows where
  newline _ plain := plain.newline
  isLineEnd _ _ _ isEnd := isEnd

theorem LineEnds.own_allows : LineEnds.own.Allows where
  newline _ _ := rfl
  isLineEnd _ plain _ isEnd := isEnd ▸ plain.newline

/-- Rows that follow the rule and are at most so deep make up the text under every plain
formatting. -/
def Laid (ends : LineEnds) (rule : RowRule) (depth : Nat) (text : Formatting → String) : Prop :=
  ∃ rows : List Row, (∀ row ∈ rows, row.Fits rule depth) ∧
    ∀ formatting : Formatting, formatting.IsPlain →
      Stacked (ends formatting) (rows.map (Row.written formatting.indent)) (text formatting)

namespace Laid

variable {ends : LineEnds} {rule : RowRule} {depth : Nat} {text text' : Formatting → String}

theorem mono {depth' : Nat} (le : depth ≤ depth') (laid : Laid ends rule depth text) :
    Laid ends rule depth' text := by
  obtain ⟨rows, fit, stacked⟩ := laid
  exact ⟨rows, fun row mem => { fit row mem with
    depth_le := Nat.le_trans (fit row mem).depth_le le }, stacked⟩

theorem of_unbroken {line : String} (unbroken : Unbroken line) (allowed : rule.allows line) :
    Laid ends rule depth fun _ => line := by
  refine ⟨[⟨0, line⟩], ?_, fun formatting _ => ?_⟩
  · rw [List.forall_mem_singleton]
    exact ⟨Nat.zero_le depth, unbroken, allowed⟩
  · rw [List.map_singleton, Row.written, Row.placed_zero]
    exact .single unbroken

theorem empty : Laid ends rule depth fun _ => "" :=
  of_unbroken Text.Spelled.empty rule.allows_empty

theorem of_returnFree {passage : String} (free : Text.ReturnFree passage)
    (allowed : ∀ line ∈ Text.lines passage, rule.allows line) :
    Laid .any rule depth fun _ => passage := by
  obtain ⟨rows, stacked⟩ : ∃ rows, Stacked IsLineEnd rows passage :=
    Stacked.exists_of_returnFree free (.inl rfl)
  refine ⟨rows.map (Row.mk 0), Row.fits_top stacked.unbroken ?_, fun formatting _ => ?_⟩
  · intro row mem
    rcases stacked.mem_lines_or_empty mem with line | rfl
    · exact allowed row line
    · exact rule.allows_empty
  · rw [Row.map_written_top]
    exact stacked

theorem joinWith (allows : ends.Allows) {lines : List String}
    (unbroken : ∀ line ∈ lines, Unbroken line) (allowed : ∀ line ∈ lines, rule.allows line) :
    Laid ends rule depth fun formatting => Text.joinWith formatting.newline lines := by
  by_cases none : lines = []
  · rw [none]
    exact empty
  · refine ⟨lines.map (Row.mk 0), Row.fits_top unbroken allowed, fun formatting plain => ?_⟩
    rw [Row.map_written_top]
    exact .joinWith none unbroken (allows.newline formatting plain)

theorem stack (allows : ends.Allows) (above : Laid ends rule depth text)
    (below : Laid ends rule depth text') :
    Laid ends rule depth fun formatting =>
      text formatting ++ formatting.newline ++ text' formatting := by
  obtain ⟨rows, fit, stacked⟩ := above
  obtain ⟨rows', fit', stacked'⟩ := below
  refine ⟨rows ++ rows', ?_, fun formatting plain => ?_⟩
  · intro row mem
    exact (List.mem_append.mp mem).elim (fit row) (fit' row)
  · rw [List.map_append]
    exact (stacked formatting plain).append (allows.newline formatting plain)
      (stacked' formatting plain)

theorem stackApart (allows : ends.Allows) (above : Laid ends rule depth text)
    (below : Laid ends rule depth text') :
    Laid ends rule depth fun formatting =>
      text formatting ++ formatting.blankLine ++ text' formatting := by
  have apart := (above.stack allows empty).stack allows below
  simpa [Formatting.blankLine, String.append_assoc] using apart

/-- Indentation drops an empty last row and puts the unit before every other one that is not
empty, so it looks at no more than which rows are empty. -/
theorem indentText (allows : ends.Allows) (laid : Laid .any rule depth text) :
    Laid ends rule (depth + 1) fun formatting => formatting.indentText (text formatting) := by
  obtain ⟨rows, fit, stacked⟩ := laid
  let kept := Text.trimLast (fun row => decide (row.text = "")) rows
  have fitKept : ∀ row ∈ kept, row.Fits rule depth :=
    fun row mem => fit row (Text.mem_of_mem_trimLast mem)
  have indented : ∀ formatting : Formatting, formatting.IsPlain →
      formatting.indentText (text formatting) =
        Text.joinWith formatting.newline
          ((kept.map Row.deeper).map (Row.written formatting.indent)) := by
    intro formatting plain
    rw [Formatting.indentText, SourceModel.indented, (stacked formatting plain).lines,
      Text.trimLast_map]
    simp only [Row.written, Row.placed_eq_empty_iff]
    simp only [List.map_map]
    congr 1
    apply List.map_congr_left
    intro row _
    exact (row.written_deeper formatting.indent).symm
  -- Without rows the text is empty, which is one empty row and not none.
  by_cases none : kept = []
  · refine ⟨[⟨0, ""⟩], ?_, fun formatting plain => ?_⟩
    · rw [List.forall_mem_singleton]
      exact ⟨Nat.zero_le _, Text.Spelled.empty, rule.allows_empty⟩
    · show Stacked (ends formatting) _ (formatting.indentText (text formatting))
      rw [indented formatting plain, none]
      exact .single Text.Spelled.empty
  · refine ⟨kept.map Row.deeper, ?_, fun formatting plain => ?_⟩
    · intro row mem
      obtain ⟨row, kept, rfl⟩ := List.mem_map.mp mem
      have fits := fitKept row kept
      exact ⟨Nat.succ_le_succ fits.depth_le, fits.unbroken, fits.allowed⟩
    · show Stacked (ends formatting) _ (formatting.indentText (text formatting))
      rw [indented formatting plain]
      refine .joinWith (by simpa using none) ?_ (allows.newline formatting plain)
      intro line mem
      rw [List.map_map] at mem
      obtain ⟨row, kept, rfl⟩ := List.mem_map.mp mem
      exact Row.unbroken_written plain.indent (fitKept row kept).unbroken

end Laid

def LaidFragment (ends : LineEnds) (rule : RowRule) (depth : Nat)
    (fragment : Formatting → Fragment) : Prop :=
  (fragment = fun _ => .absent) ∨
    ∃ text, (fragment = fun formatting => .present (text formatting)) ∧ Laid ends rule depth text

namespace LaidFragment

variable {ends : LineEnds} {rule : RowRule} {depth : Nat}

theorem present {text : Formatting → String} (laid : Laid ends rule depth text) :
    LaidFragment ends rule depth fun formatting => .present (text formatting) :=
  .inr ⟨text, rfl, laid⟩

theorem join {separator : Formatting → String}
    (glue : ∀ {a b : Formatting → String}, Laid ends rule depth a → Laid ends rule depth b →
      Laid ends rule depth fun formatting => a formatting ++ separator formatting ++ b formatting)
    {ι : Type} {write : ι → Formatting → Fragment} {items : List ι}
    (each : ∀ item ∈ items, LaidFragment ends rule depth (write item)) :
    LaidFragment ends rule depth fun formatting =>
      Fragment.join (separator formatting) (items.map fun item => write item formatting) := by
  induction items with
  | nil => exact .inl rfl
  | cons item rest ih =>
    have others := ih fun item mem => each item (List.mem_cons_of_mem _ mem)
    simp only [List.map_cons]
    rcases each item List.mem_cons_self with first | ⟨text, first, laid⟩
    · simp only [first, Fragment.join_cons_absent]
      exact others
    · simp only [first, Fragment.join_cons_present]
      rcases others with none | ⟨text', some, laid'⟩
      · refine .inr ⟨text, ?_, laid⟩
        funext formatting
        rw [congrFun none formatting]
      · refine .inr ⟨_, ?_, glue laid laid'⟩
        funext formatting
        rw [congrFun some formatting]

theorem joinLines (allows : ends.Allows) {ι : Type} {write : ι → Formatting → Fragment}
    {items : List ι} (each : ∀ item ∈ items, LaidFragment ends rule depth (write item)) :
    LaidFragment ends rule depth fun formatting =>
      Fragment.join formatting.newline (items.map fun item => write item formatting) :=
  join (Laid.stack allows) each

theorem joinApart (allows : ends.Allows) {ι : Type} {write : ι → Formatting → Fragment}
    {items : List ι} (each : ∀ item ∈ items, LaidFragment ends rule depth (write item)) :
    LaidFragment ends rule depth fun formatting =>
      Fragment.join formatting.blankLine (items.map fun item => write item formatting) :=
  join (Laid.stackApart allows) each

end LaidFragment

theorem Laid.block {ends : LineEnds} (allows : ends.Allows) {rule : RowRule} {depth : Nat}
    {head : String} (unbroken : Unbroken head) {body : Formatting → Fragment}
    (laid : LaidFragment .any rule depth body) :
    Laid ends rule (depth + 1) fun formatting =>
      head ++ " " ++ formatting.block (body formatting) := by
  have opening : Laid ends rule (depth + 1) fun _ => head ++ " " ++ "\x7b" :=
    .of_unbroken ((unbroken.append (by decide)).append (by decide))
      (rule.visible _ (.append (by decide) (by decide) _))
  have closing : Laid ends rule (depth + 1) fun _ => "\x7d" :=
    .of_unbroken (by decide) (rule.visible _ (by decide))
  rcases laid with rfl | ⟨text, rfl, laid⟩
  · have braces := opening.stack allows closing
    simpa only [Formatting.block, ← String.append_assoc] using braces
  · have inner := laid.indentText allows
    have braces := (opening.stack allows inner).stack allows closing
    simpa only [Formatting.block, ← String.append_assoc] using braces

end SourceModel
