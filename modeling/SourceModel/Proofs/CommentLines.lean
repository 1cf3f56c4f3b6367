import SourceModel.Proofs.DeclarationLines

namespace SourceModel

open Text (Spelled IsLineEnd)

theorem Text.feedless_lines (text : String) : ∀ line ∈ lines text, Feedless line := by
  have feedless (cs : List Char) : ∀ line ∈ charLines cs, ∀ c ∈ line, c ≠ '\n' := by
    fun_induction charLines cs with
    | case1 => exact List.forall_mem_nil _
    | case2 cs ih => exact List.forall_mem_cons.mpr ⟨List.forall_mem_nil _, ih⟩
    | case3 cs ih => exact List.forall_mem_cons.mpr ⟨List.forall_mem_nil _, ih⟩
    | case4 c cs isNoFeed _ _ _ =>
      rw [List.forall_mem_singleton, List.forall_mem_singleton]
      exact isNoFeed
    | case5 c cs isNoFeed _ line others split ih =>
      rw [split, List.forall_mem_cons] at ih
      exact List.forall_mem_cons.mpr ⟨List.forall_mem_cons.mpr ⟨isNoFeed, ih.1⟩, ih.2⟩
  intro line mem
  obtain ⟨cs, own, rfl⟩ := List.mem_map.mp mem
  intro c inLine
  rw [String.toList_ofList] at inLine
  exact feedless text.toList cs own c inLine

namespace View

theorem feedless_documentedLines (text : String) (tags : List String) :
    ∀ line ∈ documentedLines text tags, Text.Feedless line :=
  forall_mem_documentedLines Spelled.empty (Text.feedless_lines text)
    fun tag _ => Text.feedless_lines tag

theorem isLine_commentLine {line : String} (feedless : Text.Feedless line) :
    Text.IsLine (commentLine line) where
  feedless := by
    have bare : Text.Unbroken " *" := by decide
    rw [commentLine_eq]
    split
    · exact bare.isLine.feedless
    · exact Spelled.append (by decide) feedless.trimEnd
  last same := absurd (endsVisible_commentLine line '\r' same) (by decide)

/-- What the line documents: what stands behind the star and a space, if anything does. -/
def uncommented (line : String) : String :=
  if line = " *" then "" else String.ofList (line.toList.drop 3)

theorem uncommented_commentLine (line : String) :
    uncommented (commentLine line) = Text.trimEnd line := by
  rw [commentLine_eq]
  by_cases blank : Text.trimEnd line = ""
  · rw [if_pos blank, blank]
    rfl
  · have long : " * " ++ Text.trimEnd line ≠ " *" := by
      intro same
      have length := congrArg String.length same
      have prefixLength : " * ".length = 3 := rfl
      have bareLength : " *".length = 2 := rfl
      rw [String.length_append] at length
      omega
    rw [if_neg blank, uncommented, if_neg long, String.toList_append]
    exact String.ofList_toList

theorem starred_commentLine (line : String) :
    commentLine line = " *" ∨ " * ".toList <+: (commentLine line).toList := by
  rw [commentLine_eq]
  split
  · exact .inl rfl
  · rw [String.toList_append]
    exact .inr (List.prefix_append _ _)

end View

namespace JavadocTag

def spelling (tag : JavadocTag) : String :=
  Text.joinWith " " (("@" ++ tag.name) :: (tag.value.toList ++ tag.text.toList))

theorem written_eq (tag : JavadocTag) : tag.written = .present tag.spelling := by
  have joined := Fragment.join_present " "
    (("@" ++ tag.name) :: (tag.value.toList ++ tag.text.toList))
  rw [if_neg (List.cons_ne_nil _ _)] at joined
  obtain ⟨name, value, text⟩ := tag
  cases value <;> cases text <;> exact joined

theorem spelling_ne_empty (tag : JavadocTag) : tag.spelling ≠ "" := by
  unfold spelling
  cases tag.value.toList ++ tag.text.toList with
  | nil => simp
  | cons next rest => simp [Text.joinWith_cons_cons]

end JavadocTag

namespace Javadoc

theorem tagTexts_eq (javadoc : Javadoc) :
    javadoc.tagTexts = javadoc.tags.map JavadocTag.spelling := by
  have written : javadoc.tags.map JavadocTag.written =
      (javadoc.tags.map JavadocTag.spelling).map .present := by
    rw [List.map_map]
    exact congrArg (List.map · javadoc.tags) (funext JavadocTag.written_eq)
  rw [tagTexts, written, texts_map_present]

def documentedLines (javadoc : Javadoc) : List String :=
  View.documentedLines javadoc.text javadoc.tagTexts

theorem documentedLines_ne_nil {javadoc : Javadoc} (some : javadoc ≠ {}) :
    javadoc.documentedLines ≠ [] := by
  obtain ⟨text, tags⟩ := javadoc
  intro none
  simp only [documentedLines, View.documentedLines, List.append_eq_nil_iff,
    Text.lines_eq_nil_iff] at none
  obtain ⟨textless, -, bare⟩ := none
  cases tags with
  | nil => exact some (congrArg (Javadoc.mk · []) textless)
  | cons tag rest =>
    rw [tagTexts_eq, List.map_cons, List.flatMap_cons, List.append_eq_nil_iff,
      Text.lines_eq_nil_iff] at bare
    exact tag.spelling_ne_empty bare.1

theorem written_of_ne (newline : String) {javadoc : Javadoc} (some : javadoc ≠ {}) :
    javadoc.written newline = .present
      (Text.joinWith newline ("/**" :: javadoc.documentedLines.map View.commentLine) ++ newline ++
        " */") := by
  have isPresent : ¬ javadoc.written newline = .absent := mt written_eq_absent_iff.mp some
  obtain ⟨first, rest, rows⟩ := List.exists_cons_of_ne_nil (documentedLines_ne_nil some)
  unfold written at isPresent ⊢
  split
  · rename_i none
    exact absurd (if_pos none) isPresent
  · rw [View.commentBody_eq, ← documentedLines, rows, List.map_cons, Text.joinWith_cons_cons]

theorem lines_written {newline : String} (isEnd : IsLineEnd newline) {javadoc : Javadoc}
    (some : javadoc ≠ {}) :
    ∃ comment, javadoc.written newline = .present comment ∧
      Text.lines comment =
        "/**" :: (javadoc.documentedLines.map View.commentLine ++ [" */"]) := by
  have opening : Text.IsLine "/**" := Text.Unbroken.isLine (by decide)
  have closing : Text.lines " */" = [" */"] := by decide
  have each : ∀ line ∈ "/**" :: javadoc.documentedLines.map View.commentLine,
      Text.IsLine line := by
    rw [List.forall_mem_cons, List.forall_mem_map]
    refine ⟨opening, fun line mem => ?_⟩
    exact View.isLine_commentLine (View.feedless_documentedLines _ _ line mem)
  have split := Text.lines_joinWith isEnd (List.cons_ne_nil _ _) each " */"
  rw [closing] at split
  exact ⟨_, written_of_ne newline some, split⟩

theorem map_uncommented (javadoc : Javadoc) :
    (javadoc.documentedLines.map View.commentLine).map View.uncommented =
      (Text.lines javadoc.text).map Text.trimEnd ++
        ((if javadoc.text ≠ "" ∧ javadoc.tags ≠ [] then [""] else []) ++
          (javadoc.tagTexts.flatMap Text.lines).map Text.trimEnd) := by
  have back : View.uncommented ∘ View.commentLine = Text.trimEnd :=
    funext View.uncommented_commentLine
  have gap : (if javadoc.text ≠ "" ∧ javadoc.tagTexts ≠ [] then [""] else []).map Text.trimEnd =
      if javadoc.text ≠ "" ∧ javadoc.tags ≠ [] then [""] else [] := by
    simp only [ne_eq, tagTexts_eq_nil_iff]
    split <;> rfl
  rw [List.map_map, back, documentedLines, View.documentedLines, List.map_append,
    List.map_append, gap]

end Javadoc

namespace Registry.WritesModel

variable {r : Registry}

theorem outcome_on_javadoc (views : r.WritesModel) (formatting : Formatting)
    (scope : ImportScope) (javadoc : Javadoc) :
    ((r.generator formatting scope).on (.javadoc javadoc)).outcome =
      .ok (javadoc.written formatting.newline) :=
  views.outcome_javadoc javadoc (Nat.le_add_right _ _)

theorem outcome_on_javadocTag (views : r.WritesModel) (formatting : Formatting)
    (scope : ImportScope) (tag : JavadocTag) :
    ((r.generator formatting scope).on (.javadocTag tag)).outcome = .ok tag.written := by
  have written := outcome_dispatch_succ (views.javadocTag tag) formatting r.reach scope
  rw [Nat.add_comm] at written
  exact written

end Registry.WritesModel

/-- A comment is rendered unless it says nothing. Its first line opens it and its last one closes
it; every line between has a star, and without the stars the lines are those of the text, a gap if
there are text and tags, and those of the tags, each without white space at its end. -/
theorem outcome_javadoc_lines (indent : String) {newline : String} (isEnd : IsLineEnd newline)
    (scope : ImportScope) (javadoc : Javadoc) :
    let g := Dialect.java.registry.generator ⟨indent, newline⟩ scope
    ((g.on (.javadoc javadoc)).outcome = .ok .absent ↔
      javadoc.text = "" ∧ javadoc.tags = []) ∧
    (¬ (javadoc.text = "" ∧ javadoc.tags = []) →
      ∃ (comment : String) (inner tagTexts : List String),
        (g.on (.javadoc javadoc)).outcome = .ok (.present comment) ∧
        (javadoc.tags.map fun tag => (g.on (.javadocTag tag)).outcome) =
          (tagTexts.map fun text => .ok (.present text)) ∧
        Text.lines comment = "/**" :: (inner ++ [" */"]) ∧
        (∀ line ∈ inner, line = " *" ∨ " * ".toList <+: line.toList) ∧
        inner.map View.uncommented =
          (Text.lines javadoc.text).map Text.trimEnd ++
            ((if javadoc.text ≠ "" ∧ javadoc.tags ≠ [] then [""] else []) ++
              (tagTexts.flatMap Text.lines).map Text.trimEnd)) := by
  intro g
  have rendered : (g.on (.javadoc javadoc)).outcome = .ok (javadoc.written newline) :=
    java_writesModel.outcome_on_javadoc _ scope javadoc
  have tags : (fun tag => (g.on (.javadocTag tag)).outcome) = fun tag => .ok tag.written :=
    funext (java_writesModel.outcome_on_javadocTag _ scope)
  have nothing : javadoc = {} ↔ javadoc.text = "" ∧ javadoc.tags = [] := by
    cases javadoc
    simp
  rw [rendered, Except.ok.injEq, tags, Javadoc.written_eq_absent_iff, nothing]
  refine ⟨Iff.rfl, fun some => ?_⟩
  obtain ⟨comment, written, lines⟩ := Javadoc.lines_written isEnd (mt nothing.mp some)
  refine ⟨comment, javadoc.documentedLines.map View.commentLine, javadoc.tagTexts,
    congrArg Except.ok written, ?_, lines, ?_, javadoc.map_uncommented⟩
  · rw [javadoc.tagTexts_eq, List.map_map]
    exact List.map_congr_left fun tag _ => congrArg Except.ok tag.written_eq
  · rw [List.forall_mem_map]
    exact fun line _ => View.starred_commentLine line

def tallyJavadoc : Javadoc where
  text := "Counts.  \n\n * one by one"
  tags := [⟨"by\rname", none, some "as is\t\r\nor not\n"⟩]

theorem outcome_javadoc_lines_tally :
    IsLineEnd "\r\n" ∧ ¬ (tallyJavadoc.text = "" ∧ tallyJavadoc.tags = []) ∧
      ∃ (comment : String) (inner : List String),
        ((Dialect.java.registry.generator ⟨"", "\r\n"⟩ .empty).on
            (.javadoc tallyJavadoc)).outcome = .ok (.present comment) ∧
        Text.lines comment = "/**" :: (inner ++ [" */"]) ∧
        inner.map View.uncommented =
          ["Counts.", "", " * one by one", "", "@by\rname as is", "or not"] := by
  have isEnd : IsLineEnd "\r\n" := .inr rfl
  have some : ¬ (tallyJavadoc.text = "" ∧ tallyJavadoc.tags = []) := by decide
  obtain ⟨comment, inner, tagTexts, rendered, tags, lines, -, documented⟩ :=
    (outcome_javadoc_lines "" isEnd .empty tallyJavadoc).2 some
  obtain rfl : ["@by\rname as is\t\r\nor not\n"] = tagTexts :=
    (List.map_inj_right fun _ _ same => Fragment.present.inj (Except.ok.inj same)).mp tags
  exact ⟨isEnd, some, comment, inner, rendered, lines, documented.trans (by decide)⟩

end SourceModel
