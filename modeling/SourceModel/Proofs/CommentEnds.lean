import Mathlib.Logic.Basic
import SourceModel.Proofs.CommentLines

namespace SourceModel

namespace Text

theorem isPrefix_charLines_iff {part cs : List Char}
    (unbroken : ∀ c ∈ part, c ≠ '\n' ∧ c ≠ '\r') :
    part <+: cs ↔ part <+: (charLines cs).headD [] := by
  -- Behind an equal first character the same holds of what follows, which may be empty.
  fun_induction charLines cs generalizing part with
  | case1 => rfl
  | case2 cs ih =>
    rw [List.prefix_cons_iff, List.headD_cons, List.prefix_nil]
    refine ⟨fun starts => starts.elim id ?_, .inl⟩
    rintro ⟨rest, rfl, -⟩
    exact absurd rfl (unbroken '\n' List.mem_cons_self).1
  | case3 cs ih =>
    rw [List.prefix_cons_iff, List.headD_cons, List.prefix_nil]
    refine ⟨fun starts => starts.elim id ?_, .inl⟩
    rintro ⟨rest, rfl, -⟩
    exact absurd rfl (unbroken '\r' List.mem_cons_self).2
  | case4 c cs _ _ none _ => rw [charLines_eq_nil_iff.mp none, List.headD_cons]
  | case5 c cs _ _ line others split ih =>
    rw [split, List.headD_cons] at ih
    rw [List.headD_cons, List.prefix_cons_iff, List.prefix_cons_iff]
    refine or_congr_right (exists_congr fun rest => and_congr_right ?_)
    rintro rfl
    exact ih fun d mem => unbroken d (List.mem_cons_of_mem _ mem)

theorem isInfix_charLines_iff {part cs : List Char} (some : part ≠ [])
    (unbroken : ∀ c ∈ part, c ≠ '\n' ∧ c ≠ '\r') :
    part <:+: cs ↔ ∃ line ∈ charLines cs, part <:+: line := by
  have starts (cs : List Char) : part <+: cs ↔ part <+: (charLines cs).headD [] :=
    isPrefix_charLines_iff unbroken
  fun_induction charLines cs with
  | case1 => simp [some]
  | case2 cs ih =>
    have apart : ¬ part <+: '\n' :: cs := by
      rw [starts, charLines]
      simpa using some
    have below : part <:+: cs ↔ ∃ line ∈ charLines cs, part <:+: line := ih
    rw [List.infix_cons_iff, below]
    simp [apart, some]
  | case3 cs ih =>
    have apart : ¬ part <+: '\r' :: '\n' :: cs := by
      rw [starts, charLines]
      simpa using some
    have feed : ¬ part <+: '\n' :: cs := by
      rw [starts, charLines]
      simpa using some
    have below : part <:+: cs ↔ ∃ line ∈ charLines cs, part <:+: line := ih
    rw [List.infix_cons_iff, List.infix_cons_iff, below]
    simp [apart, feed, some]
  | case4 c cs _ _ none _ => simp [charLines_eq_nil_iff.mp none]
  | case5 c cs isNoFeed unpaired line others split ih =>
    -- A part starts with the first character, in the first line, or lies behind it.
    have first : part <+: c :: cs ↔ part <+: c :: line := by
      rw [starts, charLines, split, List.headD_cons]
      · exact isNoFeed
      · exact unpaired
    have below : part <:+: cs ↔ ∃ line ∈ charLines cs, part <:+: line := ih
    rw [split] at below
    rw [List.infix_cons_iff, first, below]
    simp [List.infix_cons_iff, or_assoc]

def EndsComment (text : String) : Prop := "*/".toList <:+: text.toList

instance : DecidablePred EndsComment :=
  fun text => inferInstanceAs (Decidable ("*/".toList <:+: text.toList))

theorem isInfix_pair_append {α : Type} {a b : α} {xs ys : List α} :
    [a, b] <:+: xs ++ ys ↔
      [a, b] <:+: xs ∨ [a, b] <:+: ys ∨ xs.getLast? = some a ∧ ys.head? = some b := by
  rw [List.infix_append_iff]
  constructor
  · rintro (left | right | ⟨front, rest, split, ends, starts⟩)
    · exact .inl left
    · exact .inr (.inl right)
    · -- The seam is before, between or behind the two.
      rcases front with _ | ⟨c, _ | ⟨d, front⟩⟩
      · exact .inr (.inl (split ▸ starts.isInfix))
      · obtain ⟨rfl, rfl⟩ := List.cons.inj split
        obtain ⟨before, rfl⟩ := ends
        obtain ⟨after, rfl⟩ := starts
        exact .inr (.inr ⟨List.getLast?_concat, rfl⟩)
      · simp only [List.cons_append, List.cons.injEq, List.nil_eq, List.append_eq_nil_iff] at split
        obtain ⟨rfl, rfl, rfl, -⟩ := split
        exact .inl ends.isInfix
  · rintro (left | right | ⟨last, first⟩)
    · exact .inl left
    · exact .inr (.inl right)
    · obtain ⟨before, rfl⟩ := List.getLast?_eq_some_iff.mp last
      obtain ⟨after, rfl⟩ := List.head?_eq_some_iff.mp first
      exact .inr (.inr ⟨[a], [b], rfl, List.suffix_append before [a], List.prefix_append [b] after⟩)

theorem endsComment_append {a b : String} :
    EndsComment (a ++ b) ↔ EndsComment a ∨ EndsComment b ∨
      a.toList.getLast? = some '*' ∧ b.toList.head? = some '/' := by
  unfold EndsComment
  rw [String.toList_append]
  exact isInfix_pair_append

theorem endsComment_append_of_head {a b : String} (apart : b.toList.head? ≠ some '/') :
    EndsComment (a ++ b) ↔ EndsComment a ∨ EndsComment b := by
  rw [endsComment_append]
  simp [apart]

theorem endsComment_append_of_last {a b : String} (apart : a.toList.getLast? ≠ some '*') :
    EndsComment (a ++ b) ↔ EndsComment a ∨ EndsComment b := by
  rw [endsComment_append]
  simp [apart]

theorem not_endsComment_of_notMem {text : String} (starless : '*' ∉ text.toList) :
    ¬ EndsComment text :=
  fun ends => starless (ends.subset List.mem_cons_self)

theorem endsComment_iff_lines {text : String} :
    EndsComment text ↔ ∃ line ∈ lines text, EndsComment line := by
  have unbroken : Unbroken "*/" := by decide
  simp only [EndsComment, lines, List.mem_map, exists_exists_and_eq_and, String.toList_ofList]
  exact isInfix_charLines_iff (by decide) unbroken

theorem endsComment_trimEnd (text : String) : EndsComment (trimEnd text) ↔ EndsComment text := by
  obtain ⟨blanks, blank, whole⟩ :
      ∃ blanks : List Char, (∀ c ∈ blanks, isBlank c) ∧
        text.toList = trimEndChars text.toList ++ blanks := by
    refine ⟨(text.toList.reverse.takeWhile isBlank).reverse, fun c mem => ?_, ?_⟩
    · exact List.all_eq_true.mp List.all_takeWhile c (List.mem_reverse.mp mem)
    · rw [trimEndChars, ← List.reverse_append, List.takeWhile_append_dropWhile,
        List.reverse_reverse]
  have kept : text = trimEnd text ++ String.ofList blanks := by
    rw [trimEnd, ← String.ofList_append, ← whole, String.ofList_toList]
  have starless : ¬ EndsComment (String.ofList blanks) := by
    apply not_endsComment_of_notMem
    rw [String.toList_ofList]
    exact fun mem => absurd (blank _ mem) (by decide)
  have apart : (String.ofList blanks).toList.head? ≠ some '/' := by
    rw [String.toList_ofList]
    exact fun first => absurd (blank _ (List.mem_of_head? first)) (by decide)
  calc EndsComment (trimEnd text)
      ↔ EndsComment (trimEnd text ++ String.ofList blanks) := by
        rw [endsComment_append_of_head apart, or_iff_left starless]
    _ ↔ EndsComment text := by rw [← kept]

theorem joinWith_cons_append (separator text next : String) (rest : List String) :
    joinWith separator (text :: next :: rest) =
      joinWith separator ((text ++ separator ++ next) :: rest) := by
  cases rest with
  | nil => rfl
  | cons other rest => simp only [joinWith_cons_cons, String.append_assoc]

/-- What ends a comment is in a joined text only if it is in one of the texts, provided that none
arises where the separator meets its neighbours. -/
theorem endsComment_joinWith {separator first : String} {rest : List String}
    (apart : ∀ text ∈ rest, ∀ before,
      EndsComment (before ++ separator ++ text) ↔ EndsComment before ∨ EndsComment text) :
    EndsComment (joinWith separator (first :: rest)) ↔
      ∃ text ∈ first :: rest, EndsComment text := by
  induction rest generalizing first with
  | nil => simp
  | cons next rest ih =>
    rw [List.forall_mem_cons] at apart
    rw [joinWith_cons_append, ih apart.2]
    simp only [List.mem_cons, exists_eq_or_imp, apart.1 first, or_assoc]

theorem endsComment_append_separator {separator : String} (own : ¬ EndsComment separator)
    (first : separator.toList.head? ≠ some '/') {before text : String}
    (apart : text.toList.head? ≠ some '/') :
    EndsComment (before ++ separator ++ text) ↔ EndsComment before ∨ EndsComment text := by
  rw [endsComment_append_of_head apart, endsComment_append_of_head first, or_iff_left own]

theorem endsComment_append_space {before text : String} :
    EndsComment (before ++ " " ++ text) ↔ EndsComment before ∨ EndsComment text := by
  have space : ¬ EndsComment " " := by decide
  have last : (before ++ " ").toList.getLast? ≠ some '*' := by
    rw [String.toList_append]
    simp
  rw [endsComment_append_of_last last, endsComment_append_of_head (by decide), or_iff_left space]

end Text

open Text (EndsComment)

theorem View.endsComment_commentLine {line : String} :
    EndsComment (commentLine line) ↔ EndsComment line := by
  have star : ¬ EndsComment " * " := by decide
  rw [commentLine_eq, ← Text.endsComment_trimEnd line]
  split
  · rename_i blank
    rw [blank]
    decide
  · rw [Text.endsComment_append_of_last (by decide), or_iff_right star]

theorem View.head?_commentLine (line : String) :
    (commentLine line).toList.head? ≠ some '/' := by
  rw [commentLine_eq]
  split
  · decide
  · rw [String.toList_append]
    simp

theorem exists_mem_flatMap {α β : Type} {p : β → Prop} {f : α → List β} {as : List α} :
    (∃ b ∈ as.flatMap f, p b) ↔ ∃ a ∈ as, ∃ b ∈ f a, p b := by
  simp only [List.mem_flatMap]
  constructor
  · rintro ⟨b, ⟨a, mem, inside⟩, own⟩
    exact ⟨a, mem, b, inside, own⟩
  · rintro ⟨a, mem, b, inside, own⟩
    exact ⟨b, ⟨a, mem, inside⟩, own⟩

theorem JavadocTag.endsComment_spelling {tag : JavadocTag} :
    EndsComment tag.spelling ↔ ∃ passage ∈ tag.passages, EndsComment passage := by
  have sign : ¬ EndsComment "@" := by decide
  have apart : ∀ passage ∈ tag.value.toList ++ tag.text.toList, ∀ before,
      EndsComment (before ++ " " ++ passage) ↔ EndsComment before ∨ EndsComment passage :=
    fun _ _ _ => Text.endsComment_append_space
  have name : EndsComment ("@" ++ tag.name) ↔ EndsComment tag.name := by
    rw [Text.endsComment_append_of_last (by decide), or_iff_right sign]
  rw [spelling, Text.endsComment_joinWith apart]
  simp only [passages, List.cons_append, List.mem_cons, exists_eq_or_imp, name]

namespace Javadoc

theorem endsComment_documentedLines {javadoc : Javadoc} :
    (∃ line ∈ javadoc.documentedLines, EndsComment line) ↔
      ∃ passage ∈ javadoc.passages, EndsComment passage := by
  have gap : ¬ ∃ line ∈ (if javadoc.text ≠ "" ∧ javadoc.tagTexts ≠ [] then [""] else []),
      EndsComment line := by
    split <;> decide
  have tags : (∃ line ∈ javadoc.tagTexts.flatMap Text.lines, EndsComment line) ↔
      ∃ passage ∈ javadoc.tags.flatMap JavadocTag.passages, EndsComment passage := by
    rw [tagTexts_eq, List.flatMap_map]
    simp only [exists_mem_flatMap, ← Text.endsComment_iff_lines, JavadocTag.endsComment_spelling]
  simp only [documentedLines, View.documentedLines, List.mem_append, or_and_right, exists_or, gap,
    false_or, tags, passages, List.mem_cons, exists_eq_left, ← Text.endsComment_iff_lines]

theorem endsComment_rows {newline : String} (own : ¬ EndsComment newline)
    (first : newline.toList.head? ≠ some '/') (javadoc : Javadoc) :
    EndsComment (Text.joinWith newline
        ("/**" :: javadoc.documentedLines.map View.commentLine)) ↔
      ∃ passage ∈ javadoc.passages, EndsComment passage := by
  have opening : ¬ EndsComment "/**" := by decide
  have apart : ∀ row ∈ javadoc.documentedLines.map View.commentLine, ∀ before,
      EndsComment (before ++ newline ++ row) ↔ EndsComment before ∨ EndsComment row := by
    rw [List.forall_mem_map]
    exact fun line _ _ =>
      Text.endsComment_append_separator own first (View.head?_commentLine line)
  rw [Text.endsComment_joinWith apart]
  simp only [List.mem_cons, exists_eq_or_imp, opening, false_or, List.mem_map,
    exists_exists_and_eq_and, View.endsComment_commentLine, endsComment_documentedLines]

theorem written_ends (newline : String) {javadoc : Javadoc} (some : javadoc ≠ {}) :
    ∃ body, javadoc.written newline = .present ("/**" ++ body ++ "*/") ∧
      (EndsComment ("/**" ++ body) ↔
        (∃ passage ∈ javadoc.passages, EndsComment passage) ∨
          EndsComment newline ∨ newline.toList.head? = .some '/') := by
  let rows := javadoc.documentedLines.map View.commentLine
  let body := newline ++ (Text.joinWith newline rows ++ newline ++ " ")
  have whole : "/**" ++ body = Text.joinWith newline ("/**" :: rows) ++ newline ++ " " := by
    obtain ⟨line, rest, lines⟩ := List.exists_cons_of_ne_nil (documentedLines_ne_nil some)
    simp only [body, rows, lines, List.map_cons, Text.joinWith_cons_cons, String.append_assoc]
  refine ⟨body, ?_, ?_⟩
  · have closing : " */" = " " ++ "*/" := rfl
    rw [written_of_ne newline some, whole, closing, ← String.append_assoc]
  · by_cases inSeparator : EndsComment newline ∨ newline.toList.head? = .some '/'
    · refine iff_of_true (Text.endsComment_append.mpr (.inr ?_)) (.inr inSeparator)
      rcases inSeparator with own | first
      · exact .inl (Text.endsComment_append.mpr (.inl own))
      · refine .inr ⟨by decide, ?_⟩
        rw [String.toList_append, List.head?_append, first]
        rfl
    · obtain ⟨own, first⟩ := not_or.mp inSeparator
      have space : ¬ EndsComment " " := by decide
      rw [whole, Text.endsComment_append_separator own first (by decide), or_iff_left space,
        or_iff_left inSeparator]
      exact javadoc.endsComment_rows own first

end Javadoc

/-- A comment is rendered unless it says nothing, from its opening to an end of a comment. There is
an end before that exactly if the text or a name, value or text of a tag has one in it, or the line
separator has one or starts with a slash. -/
theorem outcome_javadoc_ends (formatting : Formatting) (scope : ImportScope) (javadoc : Javadoc) :
    let outcome :=
      ((Dialect.java.registry.generator formatting scope).on (.javadoc javadoc)).outcome
    (outcome = .ok .absent ↔ javadoc.text = "" ∧ javadoc.tags = []) ∧
    (outcome = .ok .absent ∨
      ∃ body, outcome = .ok (.present ("/**" ++ body ++ "*/")) ∧
        (EndsComment ("/**" ++ body) ↔
          (∃ passage ∈ javadoc.passages, EndsComment passage) ∨
            EndsComment formatting.newline ∨
            formatting.newline.toList.head? = some '/')) := by
  intro outcome
  have rendered : outcome = .ok (javadoc.written formatting.newline) :=
    java_writesModel.outcome_on_javadoc formatting scope javadoc
  have nothing : outcome = .ok .absent ↔ javadoc = {} := by
    rw [rendered, Except.ok.injEq, Javadoc.written_eq_absent_iff]
  have empty : javadoc = {} ↔ javadoc.text = "" ∧ javadoc.tags = [] := by
    cases javadoc
    simp
  refine ⟨nothing.trans empty, ?_⟩
  by_cases some : javadoc = {}
  · exact .inl (nothing.mpr some)
  · obtain ⟨body, written, ends⟩ := Javadoc.written_ends formatting.newline some
    exact .inr ⟨body, rendered.trans (congrArg Except.ok written), ends⟩

theorem javadoc_ends_early :
    ¬ ∀ (formatting : Formatting) (javadoc : Javadoc),
      let outcome :=
        ((Dialect.java.registry.generator formatting .empty).on (.javadoc javadoc)).outcome
      outcome = .ok .absent ∨
        ∃ body, outcome = .ok (.present ("/**" ++ body ++ "*/")) ∧
          ¬ EndsComment ("/**" ++ body) := by
  intro closed
  let javadoc : Javadoc := { text := "Looks into src/*/java." }
  have rendered :
      ((Dialect.java.registry.generator ⟨"    ", "\n"⟩ .empty).on (.javadoc javadoc)).outcome =
        .ok (.present "/**\n * Looks into src/*/java.\n */") := by
    rw [java_writesModel.outcome_on_javadoc]
    exact congrArg Except.ok (by decide)
  have early : EndsComment "/**\n * Looks into src/*/java.\n " :=
    ⟨"/**\n * Looks into src/".toList, "java.\n ".toList, rfl⟩
  rcases closed ⟨"    ", "\n"⟩ javadoc with absent | ⟨body, present, apart⟩
  · cases rendered.symm.trans absent
  · have same := Fragment.present.inj (Except.ok.inj (rendered.symm.trans present))
    have split : "/**\n * Looks into src/*/java.\n */" =
        "/**\n * Looks into src/*/java.\n " ++ "*/" := rfl
    rw [split, String.append_left_inj] at same
    exact apart (same ▸ early)

end SourceModel
