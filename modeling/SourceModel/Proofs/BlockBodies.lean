import Mathlib.Algebra.Order.BigOperators.Group.List
import Mathlib.Algebra.Order.Ring.Nat
import SourceModel.Proofs.DeclarationLines

/-!
# Bodies of blocks and their separators

The rows of a body are joined with the separator of the formatting, and a block takes the body apart
again at line feeds. A separator without a line feed leaves the whole body one line, and one that
has a line feed but is no line end leaves more on the lines than the rows.
-/

namespace SourceModel

open Text (Unbroken IsLineEnd)

namespace Text

theorem joinWith_cons {separator text : String} {rest : List String} (some : rest ≠ []) :
    joinWith separator (text :: rest) = text ++ separator ++ joinWith separator rest := by
  obtain ⟨next, others, rfl⟩ := List.exists_cons_of_ne_nil some
  exact joinWith_cons_cons separator text next others

theorem length_joinWith (separator : String) {texts : List String} (some : texts ≠ []) :
    (joinWith separator texts).length + separator.length =
      (texts.map fun text => text.length + separator.length).sum := by
  induction texts with
  | nil => exact absurd rfl some
  | cons text rest ih =>
    by_cases none : rest = []
    · simp [none]
    · rw [joinWith_cons none, List.map_cons, List.sum_cons, ← ih none]
      simp only [String.length_append]
      omega

theorem joinWith_concat_ne_empty {last : String} (visible : last ≠ "") (separator : String)
    (rows : List String) : joinWith separator (rows ++ [last]) ≠ "" := by
  induction rows with
  | nil => exact visible
  | cons row rest ih =>
    rw [List.cons_append, joinWith_cons (by simp)]
    simp [ih]

theorem joinWith_blanks {rows : List String} (blank : ∀ row ∈ rows, row = "")
    (separator last : String) :
    joinWith separator (rows ++ [last]) = repeated separator rows.length ++ last := by
  induction rows with
  | nil => simp [repeated]
  | cons row rest ih =>
    obtain ⟨rfl, others⟩ := List.forall_mem_cons.mp blank
    rw [List.cons_append, joinWith_cons (by simp), ih others]
    simp [repeated, String.append_assoc]

theorem lines_feedless {text : String} (feedless : Feedless text) (some : text ≠ "") :
    lines text = [text] := by
  have cs : text.toList ≠ [] := by simpa using some
  rw [lines, charLines_feedless feedless, if_neg cs, List.map_singleton, String.ofList_toList]

/-! ## What lines take up -/

section

def lineExtent (unit gap : Nat) (line : List Char) : Nat :=
  (if line = [] then 0 else unit + line.length) + gap

def extent (unit gap : Nat) (cs : List Char) : Nat :=
  ((charLines cs).map (lineExtent unit gap)).sum

variable (unit : Nat) {gap : Nat}

theorem lineExtent_lt {line longer : List Char} (lt : line.length < longer.length) :
    lineExtent unit gap line < lineExtent unit gap longer := by
  have some : longer ≠ [] := List.length_pos_iff.mp (Nat.zero_lt_of_lt lt)
  unfold lineExtent
  rw [if_neg some]
  split
  · omega
  · omega

theorem lineExtent_lt_append (line : List Char) {more : List Char} (some : more ≠ []) :
    lineExtent unit gap line < lineExtent unit gap (line ++ more) := by
  have positive := List.length_pos_iff.mpr some
  exact lineExtent_lt unit (by simpa using positive)

theorem lineExtent_le_append (line more : List Char) :
    lineExtent unit gap line ≤ lineExtent unit gap (line ++ more) := by
  by_cases none : more = []
  · simp [none]
  · exact Nat.le_of_lt (lineExtent_lt_append unit line none)

theorem extent_line (gap : Nat) {line : List Char} (feedless : ∀ c ∈ line, c ≠ '\n')
    (some : line ≠ []) : extent unit gap line = lineExtent unit gap line := by
  simp [extent, charLines_feedless feedless, some]

theorem extent_feed (gap : Nat) {line : List Char} (feedless : ∀ c ∈ line, c ≠ '\n')
    (rest : List Char) :
    extent unit gap (line ++ '\n' :: rest) =
      lineExtent unit gap (withoutReturn line) + extent unit gap rest := by
  simp [extent, charLines_feed feedless]

theorem extent_lt_cons (positive : 0 < gap) (c : Char) {cs : List Char}
    (start : ¬ (c = '\r' ∧ cs.head? = some '\n')) :
    extent unit gap cs < extent unit gap (c :: cs) := by
  by_cases isFeed : c = '\n'
  · have added := extent_feed unit gap (List.forall_mem_nil (· ≠ '\n')) cs
    rw [isFeed, ← List.nil_append ('\n' :: cs), added]
    simpa [withoutReturn, lineExtent] using positive
  · have unpaired : ∀ tail, c = '\r' → cs = '\n' :: tail → False := by
      rintro tail isReturn rfl
      exact start ⟨isReturn, rfl⟩
    cases split : charLines cs with
    | nil =>
      have added : charLines (c :: cs) = [[c]] := by
        rw [charLines, split]
        · exact isFeed
        · exact unpaired
      rw [extent, extent, added, split]
      exact Nat.add_pos_left (Nat.add_pos_right _ positive) _
    | cons line others =>
      have longer : charLines (c :: cs) = (c :: line) :: others := by
        rw [charLines, split]
        · exact isFeed
        · exact unpaired
      have first : lineExtent unit gap line < lineExtent unit gap (c :: line) :=
        lineExtent_lt unit (by simp)
      simpa [extent, longer, split] using first

theorem extent_le_cons (positive : 0 < gap) (c : Char) (cs : List Char) :
    extent unit gap cs ≤ extent unit gap (c :: cs) := by
  by_cases paired : c = '\r' ∧ cs.head? = some '\n'
  · obtain ⟨rfl, isFeed⟩ := paired
    obtain ⟨tail, rfl⟩ := List.head?_eq_some_iff.mp isFeed
    exact Nat.le_refl _
  · exact Nat.le_of_lt (extent_lt_cons unit positive c paired)

theorem extent_le_append (positive : 0 < gap) (before cs : List Char) :
    extent unit gap cs ≤ extent unit gap (before ++ cs) := by
  induction before with
  | nil => exact Nat.le_refl _
  | cons c before ih => exact Nat.le_trans ih (extent_le_cons unit positive c _)

theorem extent_lt_append (positive : 0 < gap) {before cs : List Char} (some : before ≠ [])
    (start : cs.head? ≠ .some '\n') : extent unit gap cs < extent unit gap (before ++ cs) := by
  induction before with
  | nil => exact absurd rfl some
  | cons c before ih =>
    by_cases none : before = []
    · rw [none]
      exact extent_lt_cons unit positive c fun paired => start paired.2
    · exact Nat.lt_of_lt_of_le (ih none) (extent_le_cons unit positive c _)

/-! ## Rows with a separator that has a line feed -/

theorem withoutReturn_append {row : List Char} (last : row.getLast? ≠ .some '\r')
    (more : List Char) : withoutReturn (row ++ more) = row ++ withoutReturn more := by
  by_cases none : more = []
  · have own := withoutReturn_of_getLast?_ne last
    simpa [none, withoutReturn] using own
  · have visible : more.getLast?.isSome := by simpa using none
    unfold withoutReturn
    rw [List.getLast?_append, Option.or_of_isSome visible, List.dropLast_append_of_ne_nil none]
    split <;> rfl

/-- The separator has a line feed behind the head and is no line end, so that some of it is left on
a line. -/
structure LeavesRest (separator : String) (head tail : List Char) : Prop where
  split : separator.toList = head ++ '\n' :: tail
  feedless : ∀ c ∈ head, c ≠ '\n'
  rest : withoutReturn head ≠ [] ∨ tail ≠ []

theorem exists_leavesRest {separator : String} (feeds : ¬ Feedless separator)
    (noEnd : ¬ IsLineEnd separator) : ∃ head tail, LeavesRest separator head tail := by
  have mem : '\n' ∈ separator.toList := by
    by_contra absent
    exact feeds fun c mem same => absent (same ▸ mem)
  obtain ⟨head, tail, split, absent⟩ := List.eq_append_cons_of_mem mem
  refine ⟨head, tail, split, fun c mem same => absent (same ▸ mem), ?_⟩
  by_contra none
  rw [not_or, not_not, not_not] at none
  obtain ⟨bare, rfl⟩ := none
  -- Without its carriage return the head is empty: then the separator is a line end.
  apply noEnd
  unfold withoutReturn at bare
  split at bare
  · rename_i last
    have whole := List.dropLast_append_getLast? _ last
    rw [bare, List.nil_append] at whole
    exact .inr (String.toList_inj.mp (by rw [split, ← whole]; rfl))
  · exact .inl (String.toList_inj.mp (by rw [split, bare]; rfl))

namespace LeavesRest

variable {separator : String} {head tail : List Char}

theorem extent_row (leaves : LeavesRest separator head tail) (gap : Nat) {row : String}
    (unbroken : Unbroken row) (rest : String) :
    extent unit gap (row ++ separator ++ rest).toList =
      lineExtent unit gap (row.toList ++ withoutReturn head) +
        extent unit gap (tail ++ rest.toList) := by
  have first : ∀ c ∈ row.toList ++ head, c ≠ '\n' :=
    List.forall_mem_append.mpr ⟨unbroken.isLine.feedless, leaves.feedless⟩
  have whole : (row ++ separator ++ rest).toList =
      (row.toList ++ head) ++ '\n' :: (tail ++ rest.toList) := by
    simp [leaves.split]
  rw [whole, extent_feed unit gap first, withoutReturn_append unbroken.isLine.last]

theorem extent_row_le (leaves : LeavesRest separator head tail) (positive : 0 < gap) {row : String}
    (unbroken : Unbroken row) (rest : String) :
    lineExtent unit gap row.toList + extent unit gap rest.toList ≤
      extent unit gap (row ++ separator ++ rest).toList := by
  rw [leaves.extent_row unit gap unbroken]
  exact Nat.add_le_add (lineExtent_le_append unit _ _) (extent_le_append unit positive _ _)

theorem extent_row_lt (leaves : LeavesRest separator head tail) (positive : 0 < gap) {row : String}
    (unbroken : Unbroken row) {rest : String} (start : rest.toList.head? ≠ .some '\n') :
    lineExtent unit gap row.toList + extent unit gap rest.toList <
      extent unit gap (row ++ separator ++ rest).toList := by
  rw [leaves.extent_row unit gap unbroken]
  rcases leaves.rest with some | some
  · exact Nat.add_lt_add_of_lt_of_le (lineExtent_lt_append unit _ some)
      (extent_le_append unit positive _ _)
  · exact Nat.add_lt_add_of_le_of_lt (lineExtent_le_append unit _ _)
      (extent_lt_append unit positive some start)

theorem sum_lt_extent (leaves : LeavesRest separator head tail) (positive : 0 < gap)
    {rows : List String} (some : rows ≠ []) {last : String}
    (unbroken : ∀ row ∈ rows ++ [last], Unbroken row) (visible : last ≠ "") :
    ((rows ++ [last]).map fun row => lineExtent unit gap row.toList).sum <
      extent unit gap (joinWith separator (rows ++ [last])).toList := by
  induction rows with
  | nil => exact absurd rfl some
  | cons row rest ih =>
    rw [List.cons_append, List.forall_mem_cons] at unbroken
    obtain ⟨first, others⟩ := unbroken
    rw [List.cons_append, joinWith_cons (by simp), List.map_cons, List.sum_cons]
    by_cases none : rest = []
    · -- Behind the last separator stands a row that does not begin with a line feed.
      subst none
      have feedless := (others last (List.mem_singleton_self last)).isLine.feedless
      have start : last.toList.head? ≠ .some '\n' :=
        fun same => feedless _ (List.mem_of_head? same) rfl
      have own := extent_line unit gap feedless (by simpa using visible)
      have longer := leaves.extent_row_lt unit positive first start
      simpa [own] using longer
    · have longer := leaves.extent_row_le unit positive first
        (joinWith separator (rest ++ [last]))
      exact Nat.lt_of_lt_of_le (Nat.add_lt_add_left (ih none others) _) longer

end LeavesRest

end

end Text

namespace Formatting

variable {formatting : Formatting}

/-! ## Indented rows -/

/-- The rows between braces, each on a line of its own and, unless it is empty, behind one unit of
indentation. -/
def blockOfRows (formatting : Formatting) (rows : List String) : String :=
  "\x7b" ++ formatting.newline ++
    Text.joinWith formatting.newline (rows.map formatting.indentLine) ++ formatting.newline ++
      "\x7d"

theorem block_eq_iff {text inner : String} :
    formatting.block (.present text) =
        "\x7b" ++ formatting.newline ++ inner ++ formatting.newline ++ "\x7d" ↔
      formatting.indentText text = inner := by
  simp [block, String.append_assoc]

theorem indentText_eq (formatting : Formatting) (text : String) :
    formatting.indentText text =
      Text.joinWith formatting.newline ((Text.lines text).map formatting.indentLine) :=
  rfl

theorem length_indentLine (formatting : Formatting) (line : String) :
    (formatting.indentLine line).length + formatting.newline.length =
      Text.lineExtent formatting.indent.length formatting.newline.length line.toList := by
  unfold indentLine Text.lineExtent
  by_cases empty : line = ""
  · simp [empty]
  · simp [empty, ← String.length_toList]

theorem length_indentedRows (formatting : Formatting) {rows : List String} (some : rows ≠ []) :
    (Text.joinWith formatting.newline (rows.map formatting.indentLine)).length +
        formatting.newline.length =
      (rows.map fun row =>
        Text.lineExtent formatting.indent.length formatting.newline.length row.toList).sum := by
  rw [Text.length_joinWith _ (by simpa using some), List.map_map]
  exact congrArg List.sum (List.map_congr_left fun row _ => formatting.length_indentLine row)

theorem length_indentText (formatting : Formatting) {text : String} (some : text ≠ "") :
    (formatting.indentText text).length + formatting.newline.length =
      Text.extent formatting.indent.length formatting.newline.length text.toList := by
  have lines : Text.lines text ≠ [] := by rwa [Ne, Text.lines_eq_nil_iff]
  have whole := formatting.length_indentedRows lines
  rw [← indentText_eq] at whole
  simpa [Text.lines, Text.extent, Function.comp_def] using whole

theorem indentText_joinWith_ne (feeds : ¬ Text.Feedless formatting.newline)
    (noEnd : ¬ IsLineEnd formatting.newline) {rows : List String} (some : rows ≠ [])
    {last : String} (unbroken : ∀ row ∈ rows ++ [last], Unbroken row) (visible : last ≠ "") :
    formatting.indentText (Text.joinWith formatting.newline (rows ++ [last])) ≠
      Text.joinWith formatting.newline ((rows ++ [last]).map formatting.indentLine) := by
  intro same
  obtain ⟨head, tail, leaves⟩ := Text.exists_leavesRest feeds noEnd
  have positive : 0 < formatting.newline.length := by
    rw [← String.length_toList, leaves.split, List.length_append]
    exact Nat.add_pos_right _ (Nat.succ_pos _)
  have own := formatting.length_indentText
    (Text.joinWith_concat_ne_empty visible formatting.newline rows)
  have asked := formatting.length_indentedRows (List.concat_ne_nil last rows)
  have longer := leaves.sum_lt_extent formatting.indent.length positive some unbroken visible
  rw [same, asked] at own
  exact absurd own (Nat.ne_of_lt longer)

theorem indentText_joinWith_lineEnd (isEnd : IsLineEnd formatting.newline) {rows : List String}
    {last : String} (unbroken : ∀ row ∈ rows ++ [last], Unbroken row) (visible : last ≠ "") :
    formatting.indentText (Text.joinWith formatting.newline (rows ++ [last])) =
      Text.joinWith formatting.newline ((rows ++ [last]).map formatting.indentLine) := by
  have stacked : Text.Stacked IsLineEnd (rows ++ [last])
      (Text.joinWith formatting.newline (rows ++ [last])) := .joinWith (by simp) unbroken isEnd
  rw [indentText_eq, stacked.lines, Text.trimLast_append_singleton, if_neg (by simpa using visible)]

theorem indentText_feedless {text : String} (feedless : Text.Feedless text) (some : text ≠ "") :
    formatting.indentText text = formatting.indent ++ text := by
  rw [indentText_eq, Text.lines_feedless feedless some, List.map_singleton, Text.joinWith_singleton,
    indentLine, if_neg some]

theorem indentText_joinWith_feedless (feedless : Text.Feedless formatting.newline)
    {rows : List String} {last : String} (unbroken : ∀ row ∈ rows ++ [last], Unbroken row)
    (visible : last ≠ "") :
    formatting.indentText (Text.joinWith formatting.newline (rows ++ [last])) =
      formatting.indent ++ Text.joinWith formatting.newline (rows ++ [last]) := by
  have each : ∀ row ∈ rows ++ [last], Text.Feedless row :=
    fun row mem => (unbroken row mem).isLine.feedless
  exact indentText_feedless (Text.Spelled.joinWith feedless each)
    (Text.joinWith_concat_ne_empty visible formatting.newline rows)

theorem map_indentLine_blanks {rows : List String} (blank : ∀ row ∈ rows, row = "") :
    rows.map formatting.indentLine = rows := by
  have same : ∀ row ∈ rows, formatting.indentLine row = id row :=
    fun row mem => by rw [blank row mem]; rfl
  rw [List.map_congr_left same, List.map_id]

theorem length_le_indentLine (formatting : Formatting) (row : String) :
    row.length ≤ (formatting.indentLine row).length := by
  unfold indentLine
  split
  · simp_all
  · simp

theorem length_lt_indentLine (some : formatting.indent ≠ "") {row : String} (visible : row ≠ "") :
    row.length < (formatting.indentLine row).length := by
  have positive : 0 < formatting.indent.length := by simpa [Nat.pos_iff_ne_zero] using some
  rw [indentLine, if_neg visible, String.length_append]
  exact Nat.lt_add_of_pos_left positive

theorem blank_of_front_eq {rows : List String} {last : String} (visible : last ≠ "")
    (some : formatting.indent ≠ "")
    (same : formatting.indent ++ Text.joinWith formatting.newline (rows ++ [last]) =
      Text.joinWith formatting.newline ((rows ++ [last]).map formatting.indentLine)) :
    ∀ row ∈ rows, row = "" := by
  by_contra shown
  push Not at shown
  obtain ⟨row, mem, shown⟩ := shown
  have shorter : (rows.map fun row => row.length + formatting.newline.length).sum <
      (rows.map fun row => (formatting.indentLine row).length + formatting.newline.length).sum := by
    apply List.sum_lt_sum
    · exact fun row _ => Nat.add_le_add_right (formatting.length_le_indentLine row) _
    · exact ⟨row, mem, Nat.add_lt_add_right (length_lt_indentLine some shown) _⟩
  have nonempty : rows ++ [last] ≠ [] := by simp
  have own := Text.length_joinWith formatting.newline nonempty
  have asked := Text.length_joinWith formatting.newline
    (mt List.map_eq_nil_iff.mp nonempty : (rows ++ [last]).map formatting.indentLine ≠ [])
  rw [← same, String.length_append, List.map_map, List.map_append, List.sum_append] at asked
  rw [List.map_append, List.sum_append] at own
  have lastLine : (formatting.indentLine last).length = formatting.indent.length + last.length := by
    rw [indentLine, if_neg visible, String.length_append]
  simp only [Function.comp_def, List.map_singleton, List.sum_singleton, lastLine] at own asked
  omega

theorem front_eq_iff {rows : List String} {last : String} (visible : last ≠ "") :
    formatting.indent ++ Text.joinWith formatting.newline (rows ++ [last]) =
        Text.joinWith formatting.newline ((rows ++ [last]).map formatting.indentLine) ↔
      formatting.indent = "" ∨ (∀ row ∈ rows, row = "") ∧
        formatting.indent ++ Text.repeated formatting.newline rows.length =
          Text.repeated formatting.newline rows.length ++ formatting.indent := by
  have blanks (blank : ∀ row ∈ rows, row = "") :
      Text.joinWith formatting.newline ((rows ++ [last]).map formatting.indentLine) =
        Text.repeated formatting.newline rows.length ++ formatting.indent ++ last := by
    rw [List.map_append, List.map_singleton, map_indentLine_blanks blank,
      Text.joinWith_blanks blank, indentLine, if_neg visible, String.append_assoc]
  constructor
  · intro same
    by_cases none : formatting.indent = ""
    · exact .inl none
    · have blank := blank_of_front_eq visible none same
      rw [blanks blank, Text.joinWith_blanks blank, ← String.append_assoc,
        String.append_left_inj] at same
      exact .inr ⟨blank, same⟩
  · rintro (none | ⟨blank, commutes⟩)
    · have unchanged : formatting.indentLine = id := by
        funext row
        simp [indentLine, none, eq_comm]
      rw [unchanged, List.map_id, none, String.empty_append]
    · rw [blanks blank, Text.joinWith_blanks blank, ← String.append_assoc, commutes]

theorem indentText_joinWith_eq_iff (noEnd : ¬ IsLineEnd formatting.newline) {rows : List String}
    {last : String} (unbroken : ∀ row ∈ rows ++ [last], Unbroken row) (visible : last ≠ "") :
    formatting.indentText (Text.joinWith formatting.newline (rows ++ [last])) =
        Text.joinWith formatting.newline ((rows ++ [last]).map formatting.indentLine) ↔
      rows = [] ∨ Text.Feedless formatting.newline ∧
        (formatting.indent = "" ∨ (∀ row ∈ rows, row = "") ∧
          formatting.indent ++ Text.repeated formatting.newline rows.length =
            Text.repeated formatting.newline rows.length ++ formatting.indent) := by
  by_cases none : rows = []
  · subst none
    have own := (unbroken last (List.mem_singleton_self last)).isLine.feedless
    have single : formatting.indentText last = formatting.indentLine last :=
      (indentText_feedless own visible).trans (if_neg visible).symm
    exact iff_of_true single (.inl rfl)
  · by_cases feedless : Text.Feedless formatting.newline
    · rw [indentText_joinWith_feedless feedless unbroken visible, front_eq_iff visible,
        or_iff_right none, and_iff_right feedless]
    · have apart := indentText_joinWith_ne feedless noEnd none unbroken visible
      exact iff_of_false apart (by simp [none, feedless])

/-! ## Blocks of rows -/

/-- With a line end for a separator, every row of the body stands on its line behind one unit of
indentation. With a separator that has no line feed, the unit stands before the first row alone. So
a separator that is no line end gives the block of the rows only if there is one row, or if it has
no line feed and there is no indentation, or none but empty rows before the last and a unit that
commutes with their separators. -/
theorem block_joinWith (formatting : Formatting) {rows : List String} {last : String}
    (unbroken : ∀ row ∈ rows ++ [last], Unbroken row) (visible : last ≠ "") :
    let newline := formatting.newline
    let body := Text.joinWith newline (rows ++ [last])
    let block := formatting.block (.present body)
    (IsLineEnd newline → block = formatting.blockOfRows (rows ++ [last])) ∧
    (Text.Feedless newline →
      block = "\x7b" ++ newline ++ (formatting.indent ++ body) ++ newline ++ "\x7d") ∧
    (¬ IsLineEnd newline →
      (block = formatting.blockOfRows (rows ++ [last]) ↔
        rows = [] ∨ Text.Feedless newline ∧
          (formatting.indent = "" ∨ (∀ row ∈ rows, row = "") ∧
            formatting.indent ++ Text.repeated newline rows.length =
              Text.repeated newline rows.length ++ formatting.indent))) := by
  intro newline body block
  refine ⟨fun isEnd => ?_, fun feedless => ?_, fun noEnd => ?_⟩
  · exact block_eq_iff.mpr (indentText_joinWith_lineEnd isEnd unbroken visible)
  · exact block_eq_iff.mpr (indentText_joinWith_feedless feedless unbroken visible)
  · exact block_eq_iff.trans (indentText_joinWith_eq_iff noEnd unbroken visible)

theorem block_joinWith_members :
    let rows := ["int a;", ""]
    let spaced : Formatting := ⟨"  ", "\r\n"⟩
    let returning : Formatting := ⟨"  ", "\r"⟩
    ((∀ row ∈ rows ++ ["int b;"], Unbroken row) ∧ "int b;" ≠ "") ∧
    spaced.block (.present "int a;\r\n\r\nint b;") = "\x7b\r\n  int a;\r\n\r\n  int b;\r\n\x7d" ∧
    returning.block (.present "int a;\r\rint b;") = "\x7b\r  int a;\r\rint b;\r\x7d" ∧
    returning.block (.present "int a;\r\rint b;") ≠ returning.blockOfRows (rows ++ ["int b;"]) := by
  intro rows spaced returning
  have unbroken : ∀ row ∈ rows ++ ["int b;"], Unbroken row := by decide
  have visible : "int b;" ≠ "" := by decide
  obtain ⟨ended, -, -⟩ := spaced.block_joinWith unbroken visible
  obtain ⟨-, front, asked⟩ := returning.block_joinWith unbroken visible
  refine ⟨⟨unbroken, visible⟩, (ended (.inr rfl)).trans (by decide), front (by decide), ?_⟩
  have noEnd : ¬ IsLineEnd returning.newline := by unfold IsLineEnd; decide
  exact mt (asked noEnd).mp (by decide)

theorem block_rows_unindented :
    ¬ ∀ (formatting : Formatting) (rows : List String) (some : rows ≠ []),
      formatting.newline ≠ "" →
      (∀ row ∈ rows, Unbroken row ∧ ¬ formatting.newline.toList <:+: row.toList) →
      rows.getLast some ≠ "" →
      formatting.block (.present (Text.joinWith formatting.newline rows)) =
        formatting.blockOfRows rows := by
  intro every
  have agree := every ⟨"    ", "\r"⟩ ["a();", "b();"] (by simp) (by decide) (by decide) (by decide)
  exact absurd agree (by decide)

end Formatting

end SourceModel
