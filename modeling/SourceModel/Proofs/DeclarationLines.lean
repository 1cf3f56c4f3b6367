import SourceModel.Proofs.MissingTypes
import SourceModel.Proofs.VisibleEnds

/-!
# The lines of declarations

Members are set below one another as texts, and their lines are taken apart again: since every
member ends in a visible character, its lines are the same among the others as on its own
(`Text.lines_append`).
-/

namespace SourceModel

open Text (Unbroken ReturnFree EndsVisible IsLineEnd)

namespace Text

/-! ## Lines of texts below one another -/

/-- The text ends in a character, and that is no white space. -/
structure IsClosed (text : String) : Prop where
  ne_empty : text ≠ ""
  visible : EndsVisible text

theorem IsClosed.append {text : String} (closed : IsClosed text) (before : String) :
    IsClosed (before ++ text) where
  ne_empty := by simp [closed.ne_empty]
  visible := closed.visible.append closed.ne_empty before

theorem IsClosed.joinWith {separator : String} {texts : List String} (some : texts ≠ [])
    (closed : ∀ text ∈ texts, IsClosed text) : IsClosed (joinWith separator texts) := by
  induction texts with
  | nil => exact absurd rfl some
  | cons text rest ih =>
    cases rest with
    | nil => exact closed text List.mem_cons_self
    | cons next rest =>
      have others := ih (List.cons_ne_nil _ _) fun text mem =>
        closed text (List.mem_cons_of_mem _ mem)
      exact others.append _

theorem charLines_eq_nil_iff {cs : List Char} : charLines cs = [] ↔ cs = [] := by
  have whole : lines (String.ofList cs) = [] ↔ String.ofList cs = "" := lines_eq_nil_iff
  simpa [lines] using whole

theorem charLines_append {cs : List Char} (some : cs ≠ [])
    (visible : ∀ c ∈ cs.getLast?, isBlank c = false) {ending : String} (isEnd : IsLineEnd ending)
    (rest : List Char) :
    charLines (cs ++ (ending.toList ++ rest)) = charLines cs ++ charLines rest := by
  -- The induction is on the lines of the first text; its last character is none of its line ends.
  fun_induction charLines cs with
  | case1 => exact absurd rfl some
  | case2 cs ih =>
    cases cs with
    | nil => exact absurd (visible '\n' rfl) (by decide)
    | cons d cs =>
      have below := ih (List.cons_ne_nil _ _) (by simpa using visible)
      exact congrArg ([] :: ·) below
  | case3 cs ih =>
    cases cs with
    | nil => exact absurd (visible '\n' rfl) (by decide)
    | cons d cs =>
      have below := ih (List.cons_ne_nil _ _) (by simpa using visible)
      exact congrArg ([] :: ·) below
  | case4 c cs feedless _ none _ =>
    obtain rfl : cs = [] := charLines_eq_nil_iff.mp none
    have last := visible c rfl
    have single : ∀ d ∈ [c], d ≠ '\n' ∧ d ≠ '\r' := by
      rw [List.forall_mem_singleton]
      refine ⟨feedless, ?_⟩
      rintro rfl
      exact absurd last (by decide)
    exact charLines_append_lineEnd single isEnd rest
  | case5 c cs feedless unpaired line others split ih =>
    obtain ⟨d, cs, rfl⟩ : ∃ d tail, cs = d :: tail := by
      cases cs with
      | nil => cases split
      | cons d cs => exact ⟨d, cs, rfl⟩
    have below := ih (List.cons_ne_nil _ _) (by simpa using visible)
    rw [List.cons_append, charLines, below, split]
    · rfl
    · exact feedless
    · intro tail isReturn same
      exact unpaired cs isReturn (by rw [(List.cons.inj same).1])

theorem lines_append {text ending : String} (closed : IsClosed text) (isEnd : IsLineEnd ending)
    (rest : String) : lines (text ++ ending ++ rest) = lines text ++ lines rest := by
  have some : text.toList ≠ [] := by simpa using closed.ne_empty
  have split := charLines_append some closed.visible isEnd rest.toList
  simp only [lines, String.toList_append, List.append_assoc, split, List.map_append]

/-- The text has no line feed and does not end in a carriage return, so that with a line end behind
it it is one line. -/
structure IsLine (text : String) : Prop where
  feedless : ∀ c ∈ text.toList, c ≠ '\n'
  last : text.toList.getLast? ≠ some '\r'

theorem Unbroken.isLine {text : String} (unbroken : Unbroken text) : IsLine text where
  feedless c mem := (unbroken c mem).1
  last same := (unbroken '\r' (List.mem_of_getLast? same)).2 rfl

theorem lines_cons {line ending : String} (isLine : IsLine line) (isEnd : IsLineEnd ending)
    (rest : String) : lines (line ++ ending ++ rest) = line :: lines rest := by
  have split := charLines_line isLine.feedless isLine.last isEnd rest.toList
  simp only [lines, String.toList_append, List.append_assoc, split, List.map_cons,
    String.ofList_toList]

theorem lines_joinWith {ending : String} (isEnd : IsLineEnd ending) {rows : List String}
    (some : rows ≠ []) (each : ∀ row ∈ rows, IsLine row) (rest : String) :
    lines (joinWith ending rows ++ ending ++ rest) = rows ++ lines rest := by
  induction rows with
  | nil => exact absurd rfl some
  | cons row rows ih =>
    obtain ⟨first, others⟩ := List.forall_mem_cons.mp each
    cases rows with
    | nil => exact lines_cons first isEnd rest
    | cons next rows =>
      have below := ih (List.cons_ne_nil _ _) others
      have split : joinWith ending (row :: next :: rows) ++ ending ++ rest =
          row ++ ending ++ (joinWith ending (next :: rows) ++ ending ++ rest) := by
        simp only [joinWith_cons_cons, String.append_assoc]
      rw [split, lines_cons first isEnd, below]
      rfl

end Text

/-! ## Blocks -/

namespace Formatting

variable {formatting : Formatting}

def indentLine (formatting : Formatting) (line : String) : String :=
  if line = "" then "" else formatting.indent ++ line

def bodyLines (formatting : Formatting) : Fragment → List String
  | .absent => []
  | .present text => if text = "" then [""] else (Text.lines text).map formatting.indentLine

theorem isClosed_block (formatting : Formatting) (body : Fragment) :
    Text.IsClosed (formatting.block body) := by
  have brace : Text.IsClosed "\x7d" := ⟨by decide, by decide⟩
  cases body <;> exact brace.append _

theorem isLine_indentLine (feedless : ∀ c ∈ formatting.indent.toList, c ≠ '\n') {line : String}
    (isLine : Text.IsLine line) : Text.IsLine (formatting.indentLine line) := by
  unfold indentLine
  split
  · exact Text.Unbroken.isLine Text.Spelled.empty
  · rename_i some
    constructor
    · intro c mem
      rw [String.toList_append, List.mem_append] at mem
      exact mem.elim (feedless c) (isLine.feedless c)
    · have last : line.toList.getLast?.isSome := by simpa using some
      rw [String.toList_append, List.getLast?_append, Option.or_of_isSome last]
      exact isLine.last

theorem isLine_bodyLines (feedless : ∀ c ∈ formatting.indent.toList, c ≠ '\n') {body : Fragment}
    (each : ∀ line ∈ Text.lines body.textOrEmpty, Text.IsLine line) :
    ∀ line ∈ formatting.bodyLines body, Text.IsLine line := by
  cases body with
  | absent => simp [bodyLines]
  | present text =>
    rw [bodyLines]
    split
    · rw [List.forall_mem_singleton]
      exact Text.Unbroken.isLine Text.Spelled.empty
    · rw [List.forall_mem_map]
      exact fun line mem => isLine_indentLine feedless (each line mem)

theorem lines_block (newline : IsLineEnd formatting.newline)
    (feedless : ∀ c ∈ formatting.indent.toList, c ≠ '\n') {head : String} (unbroken : Unbroken head)
    {body : Fragment} (each : ∀ line ∈ Text.lines body.textOrEmpty, Text.IsLine line) :
    Text.lines (head ++ " " ++ formatting.block body) =
      (head ++ " \x7b") :: (formatting.bodyLines body ++ ["\x7d"]) := by
  have opening : Text.IsLine (head ++ " \x7b") :=
    Text.Unbroken.isLine (unbroken.append (by decide))
  have closing : Text.lines "\x7d" = ["\x7d"] := by decide
  have brace : head ++ " \x7b" = head ++ " " ++ "\x7b" := by
    rw [String.append_assoc]
    rfl
  cases body with
  | absent =>
    have split : head ++ " " ++ formatting.block .absent =
        head ++ " \x7b" ++ formatting.newline ++ "\x7d" := by
      simp only [block, brace, String.append_assoc]
    rw [split, Text.lines_cons opening newline, closing]
    rfl
  | present text =>
    have split : head ++ " " ++ formatting.block (.present text) =
        head ++ " \x7b" ++ formatting.newline ++
          (formatting.indentText text ++ formatting.newline ++ "\x7d") := by
      simp only [block, brace, String.append_assoc]
    rw [split, Text.lines_cons opening newline, bodyLines]
    -- Nothing between the braces is one empty line and not none.
    by_cases empty : text = ""
    · have inner : formatting.indentText text = "" := by
        rw [empty]
        rfl
      rw [if_pos empty, inner, Text.lines_cons (Text.Unbroken.isLine Text.Spelled.empty) newline,
        closing]
      rfl
    · have some : (Text.lines text).map formatting.indentLine ≠ [] := by
        rwa [Ne, List.map_eq_nil_iff, Text.lines_eq_nil_iff]
      have indented : ∀ row ∈ (Text.lines text).map formatting.indentLine, Text.IsLine row := by
        rw [List.forall_mem_map]
        exact fun line mem => isLine_indentLine feedless (each line mem)
      rw [if_neg empty]
      exact congrArg _ ((Text.lines_joinWith newline some indented "\x7d").trans (by rw [closing]))

end Formatting

/-! ## Comments -/

theorem Laid.unbroken_lines {ends : LineEnds} (allows : ends.Allows) {rule : RowRule}
    {depth : Nat} {text : Formatting → String} (laid : Laid ends rule depth text)
    {formatting : Formatting} (plain : formatting.IsPlain) :
    ∀ line ∈ Text.lines (text formatting), Unbroken line := by
  obtain ⟨rows, fit, stacked⟩ := laid
  have rows := (stacked formatting plain).mono (allows.isLineEnd formatting plain)
  intro line mem
  rw [rows.lines] at mem
  exact rows.unbroken line (Text.mem_of_mem_trimLast mem)

theorem LaidFragment.unbroken_lines {ends : LineEnds} (allows : ends.Allows) {rule : RowRule}
    {depth : Nat} {write : Formatting → Fragment} (laid : LaidFragment ends rule depth write)
    {formatting : Formatting} (plain : formatting.IsPlain) :
    ∀ line ∈ Text.lines (write formatting).textOrEmpty, Unbroken line := by
  rcases laid with absent | ⟨text, present, laid⟩
  · rw [absent]
    intro line mem
    cases mem
  · rw [present]
    exact laid.unbroken_lines allows plain

def Formatting.flat (newline : String) : Formatting := ⟨"", newline⟩

theorem Formatting.isPlain_flat {newline : String} (isEnd : IsLineEnd newline) :
    (flat newline).IsPlain :=
  ⟨Text.Spelled.empty, isEnd⟩

section

variable {newline : String}

theorem Javadoc.isClosed_written {javadoc : Javadoc} {comment : String}
    (written : javadoc.written newline = .present comment) : Text.IsClosed comment := by
  have closing : Text.IsClosed " */" := ⟨by decide, by decide⟩
  unfold Javadoc.written at written
  split at written
  · cases written
  · cases written
    exact closing.append _

def commentOver (newline : String) (javadoc : Option Javadoc) : Fragment :=
  .ofOptional (Javadoc.written newline) javadoc

theorem lines_commented (isEnd : IsLineEnd newline) (javadoc : Option Javadoc) (text : String) :
    Text.lines (commented newline javadoc text) =
      Text.lines (commentOver newline javadoc).textOrEmpty ++ Text.lines text := by
  unfold commented commentOver
  split
  · rename_i none
    rw [none]
    rfl
  · rename_i comment some
    have closed : Text.IsClosed comment := by
      cases javadoc with
      | none => cases some
      | some javadoc => exact Javadoc.isClosed_written some
    rw [some]
    exact Text.lines_append closed isEnd text

theorem unbroken_commentOver (isEnd : IsLineEnd newline) {javadoc : Option Javadoc}
    (free : ∀ passage ∈ javadoc.toList.flatMap Javadoc.passages, ReturnFree passage) :
    ∀ line ∈ Text.lines (commentOver newline javadoc).textOrEmpty, Unbroken line := by
  cases javadoc with
  | none =>
    intro line mem
    cases mem
  | some javadoc =>
    rw [Option.toList_some, List.flatMap_singleton] at free
    have comment : LaidFragment .any .any 0 fun formatting =>
        javadoc.written formatting.newline := Javadoc.laid LineEnds.any_allows free
    have lines := comment.unbroken_lines LineEnds.any_allows (Formatting.isPlain_flat isEnd)
    exact lines

theorem isClosed_commented {text : String} (closed : Text.IsClosed text)
    (javadoc : Option Javadoc) : Text.IsClosed (commented newline javadoc text) := by
  unfold commented
  split
  · exact closed
  · exact closed.append _

end

/-! ## Members -/

section

variable {formatting : Formatting} {f : String → String}

theorem Field.isClosed_text (field : Field) : Text.IsClosed (field.text formatting f) := by
  have semicolon : Text.IsClosed ";" := ⟨by decide, by decide⟩
  exact isClosed_commented (semicolon.append _) _

theorem Method.isClosed_text (method : Method) : Text.IsClosed (method.text formatting f) := by
  have semicolon : Text.IsClosed ";" := ⟨by decide, by decide⟩
  refine isClosed_commented ?_ _
  cases method.body with
  | none => exact semicolon.append _
  | some statements => exact (formatting.isClosed_block _).append _

theorem Field.unbroken_lines (keeps : KeepsUnbroken f) (newline : IsLineEnd formatting.newline)
    (field : Field) (unbroken : ∀ name ∈ field.names, Unbroken name)
    (free : ∀ passage ∈ field.passages, ReturnFree passage) :
    ∀ line ∈ Text.lines (field.text formatting f), Unbroken line := by
  have laid : Laid .any .any 0 fun formatting => field.text formatting f :=
    field.laid keeps unbroken free fun _ _ => trivial
  -- Only the line separator has a say in the text.
  have lines := laid.unbroken_lines LineEnds.any_allows (Formatting.isPlain_flat newline)
  exact lines

theorem unbroken_statements (newline : IsLineEnd formatting.newline) {statements : List Statement}
    (free : ∀ s ∈ statements, ∀ passage ∈ s.passages, ReturnFree passage) :
    ∀ line ∈ Text.lines (Fragment.join formatting.newline
      (statements.map Statement.written)).textOrEmpty, Unbroken line := by
  have each : ∀ s ∈ statements, LaidFragment .any .any 0 fun _ => s.written := by
    intro s mem
    exact .of_returnFree (s.returnFree_written (free s mem)) fun _ _ => trivial
  have joined := LaidFragment.joinLines LineEnds.any_allows each
  have lines := joined.unbroken_lines LineEnds.any_allows (Formatting.isPlain_flat newline)
  exact lines

theorem Method.isLine_lines (keeps : KeepsUnbroken f) (newline : IsLineEnd formatting.newline)
    (feedless : ∀ c ∈ formatting.indent.toList, c ≠ '\n') (method : Method)
    (unbroken : ∀ name ∈ method.names, Unbroken name)
    (free : ∀ passage ∈ method.passages, ReturnFree passage) :
    ∀ line ∈ Text.lines (method.text formatting f), Text.IsLine line := by
  have head := method.unbroken_head keeps unbroken
  rw [Method.passages, List.forall_mem_append] at free
  rw [Method.text, lines_commented newline, List.forall_mem_append]
  refine ⟨fun line mem => (unbroken_commentOver newline free.2 line mem).isLine, ?_⟩
  cases given : method.body with
  | none =>
    have ended : Unbroken (method.head f ++ ";") := head.append (by decide)
    intro line mem
    rw [ended.eq_of_mem_lines mem]
    exact ended.isLine
  | some statements =>
    rw [given, Option.getD_some, List.forall_mem_flatMap] at free
    have body := unbroken_statements newline free.1
    rw [Formatting.lines_block newline feedless head fun line mem => (body line mem).isLine]
    have opening : Unbroken (method.head f ++ " \x7b") := head.append (by decide)
    have closing : Unbroken "\x7d" := by decide
    have inner := Formatting.isLine_bodyLines feedless fun line mem => (body line mem).isLine
    rw [List.forall_mem_cons, List.forall_mem_append, List.forall_mem_singleton]
    exact ⟨opening.isLine, inner, closing.isLine⟩

end

/-! ## Members below one another -/

namespace Text

variable {ending : String}

theorem lines_joinWith_closed (isEnd : IsLineEnd ending) {texts : List String}
    (closed : ∀ text ∈ texts, IsClosed text) :
    lines (joinWith ending texts) = texts.flatMap lines := by
  induction texts with
  | nil => rfl
  | cons text rest ih =>
    obtain ⟨first, others⟩ := List.forall_mem_cons.mp closed
    cases rest with
    | nil => simp
    | cons next rest =>
      rw [joinWith_cons_cons, lines_append first isEnd, ih others]
      rfl

theorem lines_append_blank {text : String} (closed : IsClosed text) (isEnd : IsLineEnd ending)
    (rest : String) :
    lines (text ++ (ending ++ ending) ++ rest) = lines text ++ "" :: lines rest := by
  have split : text ++ (ending ++ ending) ++ rest = text ++ ending ++ ("" ++ ending ++ rest) := by
    simp [String.append_assoc]
  rw [split, lines_append closed isEnd, lines_cons (Unbroken.isLine Spelled.empty) isEnd]

theorem lines_joinWith_blank (isEnd : IsLineEnd ending) {texts : List String}
    (closed : ∀ text ∈ texts, IsClosed text) :
    lines (joinWith (ending ++ ending) texts) = [""].intercalate (texts.map lines) := by
  induction texts with
  | nil => rfl
  | cons text rest ih =>
    obtain ⟨first, others⟩ := List.forall_mem_cons.mp closed
    cases rest with
    | nil => simp [List.intercalate]
    | cons next rest =>
      rw [joinWith_cons_cons, lines_append_blank first isEnd, ih others]
      rfl

end Text

theorem Fragment.join_present (separator : String) (texts : List String) :
    join separator (texts.map .present) =
      if texts = [] then .absent else .present (Text.joinWith separator texts) := by
  rw [join, Joiner.join_eq, texts_map_present, ← Text.joinWith_eq_intercalate]
  simp

/-- The lines of fields below one another, an empty line if there are methods as well, and the lines
of methods with an empty line between one and the next. -/
def membersLines (fields methods : List String) : List String :=
  fields.flatMap Text.lines ++ (if fields = [] ∨ methods = [] then [] else [""]) ++
    [""].intercalate (methods.map Text.lines)

theorem forall_mem_intercalate {α : Type} {P : α → Prop} {separator : α} (own : P separator)
    {groups : List (List α)} (each : ∀ group ∈ groups, ∀ a ∈ group, P a) :
    ∀ a ∈ [separator].intercalate groups, P a := by
  induction groups with
  | nil => simp [List.intercalate]
  | cons group rest ih =>
    obtain ⟨first, others⟩ := List.forall_mem_cons.mp each
    cases rest with
    | nil => simpa [List.intercalate] using first
    | cons next rest =>
      have split : [separator].intercalate (group :: next :: rest) =
          group ++ separator :: [separator].intercalate (next :: rest) := rfl
      rw [split, List.forall_mem_append, List.forall_mem_cons]
      exact ⟨first, own, ih others⟩

theorem isLine_membersLines {fields methods : List String}
    (ofFields : ∀ text ∈ fields, ∀ line ∈ Text.lines text, Text.IsLine line)
    (ofMethods : ∀ text ∈ methods, ∀ line ∈ Text.lines text, Text.IsLine line) :
    ∀ line ∈ membersLines fields methods, Text.IsLine line := by
  have empty : Text.IsLine "" := Text.Unbroken.isLine Text.Spelled.empty
  rw [membersLines, List.forall_mem_append, List.forall_mem_append, List.forall_mem_flatMap]
  refine ⟨⟨ofFields, ?_⟩, forall_mem_intercalate empty (List.forall_mem_map.mpr ofMethods)⟩
  split
  · simp
  · exact List.forall_mem_singleton.mpr empty

def membersFragment (formatting : Formatting) (fields methods : List String) : Fragment :=
  Fragment.join formatting.blankLine
    [Fragment.join formatting.newline (fields.map .present),
     Fragment.join formatting.blankLine (methods.map .present)]

theorem lines_membersFragment {formatting : Formatting} (newline : IsLineEnd formatting.newline)
    {fields methods : List String} (ofFields : ∀ text ∈ fields, Text.IsClosed text)
    (ofMethods : ∀ text ∈ methods, Text.IsClosed text) :
    Text.lines (membersFragment formatting fields methods).textOrEmpty =
      membersLines fields methods := by
  have fieldLines := Text.lines_joinWith_closed newline ofFields
  have methodLines := Text.lines_joinWith_blank newline ofMethods
  rw [membersFragment, Fragment.join_cons, Fragment.join_singleton, Fragment.join_present,
    Fragment.join_present, membersLines, ← fieldLines, ← methodLines]
  by_cases noFields : fields = [] <;> by_cases noMethods : methods = []
  · rw [if_pos noFields, if_pos noMethods, if_pos (.inl noFields), noFields, noMethods]
    rfl
  · rw [if_pos noFields, if_neg noMethods, if_pos (.inl noFields), noFields]
    rfl
  · rw [if_neg noFields, if_pos noMethods, if_pos (.inr noMethods), noMethods, List.append_nil]
    exact (List.append_nil _).symm
  · rw [if_neg noFields, if_neg noMethods, if_neg (not_or.mpr ⟨noFields, noMethods⟩),
      List.append_assoc, List.singleton_append]
    have closed : Text.IsClosed (Text.joinWith formatting.newline fields) :=
      .joinWith noFields ofFields
    exact Text.lines_append_blank closed newline _

def Fragment.IsClosed (fragment : Fragment) : Prop :=
  ∀ text, fragment = .present text → Text.IsClosed text

theorem Fragment.isClosed_join {separator : String} {texts : List String}
    (closed : ∀ text ∈ texts, Text.IsClosed text) :
    (join separator (texts.map .present)).IsClosed := by
  intro text joined
  rw [join_present] at joined
  split at joined
  · cases joined
  · rename_i some
    cases joined
    exact .joinWith some closed

theorem Fragment.IsClosed.gather {separator : String} {before after : Fragment}
    (first : before.IsClosed) (second : after.IsClosed) :
    (Fragment.gather separator before after).IsClosed := by
  cases after with
  | absent => cases before <;> exact first
  | present text =>
    cases before with
    | absent => exact second
    | present before =>
      rintro _ ⟨⟩
      exact (second text rfl).append _

theorem isClosed_membersFragment {formatting : Formatting} {fields methods : List String}
    (ofFields : ∀ text ∈ fields, Text.IsClosed text)
    (ofMethods : ∀ text ∈ methods, Text.IsClosed text) :
    (membersFragment formatting fields methods).IsClosed := by
  rw [membersFragment, Fragment.join_cons, Fragment.join_singleton]
  exact (Fragment.isClosed_join ofFields).gather (Fragment.isClosed_join ofMethods)

theorem Formatting.bodyLines_eq {formatting : Formatting} {body : Fragment}
    (closed : body.IsClosed) :
    formatting.bodyLines body = (Text.lines body.textOrEmpty).map formatting.indentLine := by
  cases body with
  | absent => rfl
  | present text => exact if_neg (closed text rfl).ne_empty

/-! ## Declarations -/

section

variable {formatting : Formatting} {f : String → String}

theorem Declaration.parts_fields (decl : Declaration) : decl.parts.fields = decl.fields := by
  cases decl <;> rfl

theorem Declaration.parts_methods (decl : Declaration) : decl.parts.methods = decl.methods := by
  cases decl <;> rfl

theorem Declaration.members_eq (decl : Declaration) :
    decl.parts.members formatting f =
      membersFragment formatting (decl.fields.map (Field.text formatting f))
        (decl.methods.map (Method.text formatting f)) := by
  rw [View.DeclarationParts.members, decl.parts_fields, decl.parts_methods]
  rfl

theorem Declaration.lines_text (keeps : KeepsUnbroken f) (newline : IsLineEnd formatting.newline)
    (feedless : ∀ c ∈ formatting.indent.toList, c ≠ '\n') (decl : Declaration)
    (unbroken : ∀ name ∈ decl.names, Unbroken name)
    (free : ∀ passage ∈ decl.passages, ReturnFree passage) :
    Text.lines (decl.text formatting f) =
      Text.lines (commentOver formatting.newline decl.parts.javadoc).textOrEmpty ++
        (decl.parts.head f (decl.clauses f) ++ " \x7b") ::
          ((membersLines (decl.fields.map (Field.text formatting f))
            (decl.methods.map (Method.text formatting f))).map formatting.indentLine ++
              ["\x7d"]) := by
  have head := decl.unbroken_head keeps unbroken
  simp only [Declaration.names, List.forall_mem_append, List.forall_mem_flatMap] at unbroken
  simp only [Declaration.passages, List.forall_mem_append, List.forall_mem_flatMap] at free
  obtain ⟨⟨-, fieldNames⟩, methodNames⟩ := unbroken
  obtain ⟨⟨fieldPassages, methodPassages⟩, -⟩ := free
  have fieldsClosed : ∀ text ∈ decl.fields.map (Field.text formatting f), Text.IsClosed text :=
    List.forall_mem_map.mpr fun field _ => field.isClosed_text
  have methodsClosed : ∀ text ∈ decl.methods.map (Method.text formatting f), Text.IsClosed text :=
    List.forall_mem_map.mpr fun method _ => method.isClosed_text
  have ofFields : ∀ text ∈ decl.fields.map (Field.text formatting f),
      ∀ line ∈ Text.lines text, Text.IsLine line := by
    rw [List.forall_mem_map]
    intro field mem line own
    exact (field.unbroken_lines keeps newline (fieldNames field mem) (fieldPassages field mem)
      line own).isLine
  have ofMethods : ∀ text ∈ decl.methods.map (Method.text formatting f),
      ∀ line ∈ Text.lines text, Text.IsLine line := by
    rw [List.forall_mem_map]
    intro method mem
    exact method.isLine_lines keeps newline feedless (methodNames method mem)
      (methodPassages method mem)
  have members := lines_membersFragment newline fieldsClosed methodsClosed
  have each := isLine_membersLines ofFields ofMethods
  rw [← members] at each
  rw [Declaration.text, View.DeclarationParts.text, lines_commented newline, decl.members_eq,
    Formatting.lines_block newline feedless head each,
    Formatting.bodyLines_eq (isClosed_membersFragment fieldsClosed methodsClosed), members]

theorem Declaration.untyped?_members {decl : Declaration} (typed : ¬ decl.Untyped) :
    (∀ field ∈ decl.fields, field.untyped? = none) ∧
      ∀ method ∈ decl.methods, method.untyped? = none := by
  have none := Declaration.untyped?_eq_none_iff.mpr typed
  rw [Declaration.untyped?, Option.or_eq_none_iff, List.findSome?_eq_none_iff,
    List.findSome?_eq_none_iff] at none
  exact none

end

/-- A class or an interface renders to the lines of its comment, one line for its head, the lines
that its members render to on their own one level deeper, and a closing brace. -/
theorem outcome_declaration_lines (decl : Declaration) (typed : ¬ decl.Untyped)
    (names : ∀ name ∈ decl.names, Unbroken name)
    (passages : ∀ passage ∈ decl.passages, ReturnFree passage) (formatting : Formatting)
    (feedless : ∀ c ∈ formatting.indent.toList, c ≠ '\n')
    (newline : IsLineEnd formatting.newline) (scope : ImportScope) :
    let g := Dialect.java.registry.generator formatting scope
    ∃ text comment, ∃ fields methods : List String,
      (g.on (.ofDeclaration decl)).outcome = .ok (.present text) ∧
      (g.onOptional (decl.parts.javadoc.map .javadoc)).outcome = .ok comment ∧
      (decl.fields.map fun field => (g.on (.field field)).outcome) =
        fields.map (.ok <| .present ·) ∧
      (decl.methods.map fun method => (g.on (.method method)).outcome) =
        methods.map (.ok <| .present ·) ∧
      Text.lines text =
        Text.lines comment.textOrEmpty ++
          (decl.parts.head scope.shortName (decl.clauses scope.shortName) ++ " \x7b") ::
            ((membersLines fields methods).map formatting.indentLine ++ ["\x7d"]) := by
  intro g
  obtain ⟨typedFields, typedMethods⟩ := Declaration.untyped?_members typed
  refine ⟨decl.text formatting scope.shortName, commentOver formatting.newline decl.parts.javadoc,
    decl.fields.map (Field.text formatting scope.shortName),
    decl.methods.map (Method.text formatting scope.shortName), ?_, ?_, ?_, ?_,
    decl.lines_text (keepsUnbroken_shortName scope) newline feedless names passages⟩
  · have outcome : (g.on (.ofDeclaration decl)).outcome =
        unlessUntyped decl.untyped? (.present (decl.text formatting scope.shortName)) := by
      cases decl with
      | classDecl decl => exact java_writesModel.outcome_declaration _ (Nat.le_add_right _ _)
      | interfaceDecl decl => exact java_writesModel.outcome_declaration _ (Nat.le_add_right _ _)
    rw [outcome, Declaration.untyped?_eq_none_iff.mpr typed]
    rfl
  · cases decl.parts.javadoc with
    | none => rfl
    | some javadoc => exact java_writesModel.outcome_javadoc javadoc (Nat.le_add_right _ _)
  · rw [List.map_map]
    refine List.map_congr_left fun field mem => ?_
    have outcome : (g.on (.field field)).outcome = unlessUntyped field.untyped? _ :=
      java_writesModel.outcome_field field (Nat.le_add_right _ _)
    rw [outcome, typedFields field mem]
    rfl
  · rw [List.map_map]
    refine List.map_congr_left fun method mem => ?_
    have outcome : (g.on (.method method)).outcome = unlessUntyped method.untyped? _ :=
      java_writesModel.outcome_method method (Nat.le_add_right _ _)
    rw [outcome, typedMethods method mem]
    rfl

def queueDecl : Declaration :=
  .classDecl
    { name := "Queue"
      javadoc := some { text := "Waits.\n\nFirst in, first out." }
      fields :=
        [{ name := "names", type := some (.ofName "String")
           initializer := some "join(\n\n  \"a\")" },
         { name := "size", type := some (.ofName "int") }]
      methods :=
        [{ name := "clear", returns := .ofName "void", body := some [] },
         { name := "next", returns := .ofName "int", javadoc := some { text := "Takes one." }
           body := some [.simple "if (b)\n  stop();\n", .simple "return 1;"] },
         { name := "peek", returns := .ofName "int" }] }

theorem outcome_declaration_lines_queueDecl :
    let formatting : Formatting := ⟨"\t", "\r\n"⟩
    let g := Dialect.java.registry.generator formatting .empty
    (¬ queueDecl.Untyped ∧ (∀ name ∈ queueDecl.names, Unbroken name) ∧
      (∀ passage ∈ queueDecl.passages, ReturnFree passage) ∧
      (∀ c ∈ formatting.indent.toList, c ≠ '\n') ∧ IsLineEnd formatting.newline) ∧
    ∃ text, (g.on (.ofDeclaration queueDecl)).outcome = .ok (.present text) ∧
      Text.lines text =
        ["/**", " * Waits.", " *", " * First in, first out.", " */", "class Queue \x7b",
          "\tString names = join(", "", "\t  \"a\");", "\tint size;", "",
          "\tvoid clear() \x7b", "\t\x7d", "",
          "\t/**", "\t * Takes one.", "\t */", "\tint next() \x7b", "\t\tif (b)",
          "\t\t  stop();", "", "\t\treturn 1;", "\t\x7d", "", "\tint peek();", "\x7d"] := by
  intro formatting g
  have typed : ¬ queueDecl.Untyped := Declaration.untyped?_eq_none_iff.mp rfl
  have names : ∀ name ∈ queueDecl.names, Unbroken name := by decide +kernel
  have passages : ∀ passage ∈ queueDecl.passages, ReturnFree passage := by decide +kernel
  have unit : Unbroken formatting.indent := by decide
  have feedless : ∀ c ∈ formatting.indent.toList, c ≠ '\n' := fun c mem => (unit c mem).1
  have newline : IsLineEnd formatting.newline := .inr rfl
  obtain ⟨text, comment, fields, methods, ended, commentEnded, ofFields, ofMethods, lines⟩ :=
    outcome_declaration_lines queueDecl typed names passages formatting feedless newline .empty
  refine ⟨⟨typed, names, passages, feedless, newline⟩, text, ended, ?_⟩
  -- The texts are read off the outcomes, so that all that is left is to compute them.
  have texts_eq {outcomes : List (Except RenderError Fragment)} {texts : List String}
      (rendered : outcomes = texts.map (.ok <| .present ·)) :
      texts = Fragment.texts (outcomes.filterMap Except.toOption) := by
    have present : texts.map Fragment.present =
        (texts.map fun text => (.ok (.present text) : Except RenderError Fragment)).filterMap
          Except.toOption := by
      rw [List.filterMap_map, ← List.filterMap_eq_map]
      rfl
    rw [rendered, ← present, texts_map_present]
  have comment_eq : comment = (g.onOptional
      (queueDecl.parts.javadoc.map .javadoc)).outcome.toOption.getD .absent := by
    rw [commentEnded]
    rfl
  rw [lines, comment_eq, texts_eq ofFields, texts_eq ofMethods]
  decide +kernel

end SourceModel
