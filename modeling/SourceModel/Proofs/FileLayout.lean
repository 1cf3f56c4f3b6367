import SourceModel.Proofs.NamesAndPassages
import SourceModel.Proofs.VacantParts

namespace SourceModel

open Text (Unbroken ReturnFree)

/-- Passages may span lines, names may not, and no string has a carriage return. -/
structure SourceFile.KeepsLines (file : SourceFile) : Prop where
  names : ∀ name ∈ file.names, Unbroken name
  passages : ∀ passage ∈ file.passages, ReturnFree passage

/-! ## Comments -/

theorem Text.unbroken_lines {text : String} (free : ReturnFree text) :
    ∀ line ∈ Text.lines text, Unbroken line := by
  intro line mem
  obtain ⟨rows, stacked⟩ : ∃ rows, Stacked IsLineEnd rows text :=
    Stacked.exists_of_returnFree free (.inl rfl)
  rw [stacked.lines] at mem
  exact stacked.unbroken line (mem_of_mem_trimLast mem)

theorem Text.Spelled.trimEnd {allowed : Char → Prop} {text : String}
    (spelled : Spelled allowed text) : Spelled allowed (trimEnd text) := by
  intro c mem
  apply spelled
  simp only [Text.trimEnd, trimEndChars, String.toList_ofList, List.mem_reverse] at mem
  have kept := (List.dropWhile_sublist isBlank).subset mem
  simpa using kept

namespace View

def documentedLines (text : String) (tags : List String) : List String :=
  Text.lines text ++ ((if text ≠ "" ∧ tags ≠ [] then [""] else []) ++ tags.flatMap Text.lines)

theorem forall_mem_documentedLines {P : String → Prop} (empty : P "") {text : String}
    {tags : List String} (lines : ∀ line ∈ Text.lines text, P line)
    (tagLines : ∀ tag ∈ tags, ∀ line ∈ Text.lines tag, P line) :
    ∀ line ∈ documentedLines text tags, P line := by
  have gap : ∀ line ∈ (if text ≠ "" ∧ tags ≠ [] then [""] else []), P line := by
    split
    · exact List.forall_mem_singleton.mpr empty
    · exact List.forall_mem_nil _
  rw [documentedLines, List.forall_mem_append, List.forall_mem_append, List.forall_mem_flatMap]
  exact ⟨lines, gap, tagLines⟩

theorem commentLine_eq (line : String) :
    commentLine line = if Text.trimEnd line = "" then " *" else " * " ++ Text.trimEnd line := rfl

theorem commentBody_eq (text : String) (tags : List String) :
    commentBody text tags = (documentedLines text tags).map commentLine := by
  have bare : commentLine "" = " *" := by decide
  rw [documentedLines, List.map_append, List.map_append]
  simp only [commentBody, Bool.or_eq_true, List.isEmpty_iff, List.map_eq_nil_iff,
    Text.lines_eq_nil_iff]
  by_cases none : text = "" ∨ tags = []
  · have one : ¬ (text ≠ "" ∧ tags ≠ []) := fun both => none.elim both.1 both.2
    rw [if_pos none, if_neg one]
    rfl
  · rw [if_neg none, if_pos (not_or.mp none), List.map_singleton, bare]
    rfl

theorem unbroken_commentLine {text : String} (unbroken : Unbroken text) :
    Unbroken (commentLine text) := by
  rw [commentLine_eq]
  split
  · decide
  · exact Text.Spelled.append (by decide) unbroken.trimEnd

theorem unbroken_commentBody {text : String} {tags : List String} (free : ReturnFree text)
    (tagsFree : ∀ tag ∈ tags, ReturnFree tag) :
    ∀ line ∈ commentBody text tags, Unbroken line := by
  have lines : ∀ line ∈ documentedLines text tags, Unbroken line :=
    forall_mem_documentedLines Text.Spelled.empty (Text.unbroken_lines free)
      fun tag tagged => Text.unbroken_lines (tagsFree tag tagged)
  rw [commentBody_eq, List.forall_mem_map]
  exact fun line mem => unbroken_commentLine (lines line mem)

end View

theorem Javadoc.returnFree_tagTexts {javadoc : Javadoc}
    (free : ∀ passage ∈ javadoc.passages, ReturnFree passage) :
    ∀ tag ∈ javadoc.tagTexts, ReturnFree tag := by
  rw [Javadoc.passages, List.forall_mem_cons, List.forall_mem_flatMap] at free
  rw [tagTexts, Fragment.texts, List.forall_mem_filterMap, List.forall_mem_map]
  intro tag mem text some
  have spelled := tag.returnFree_written (free.2 tag mem)
  cases written : tag.written with
  | absent =>
    rw [written] at some
    cases some
  | present own =>
    rw [written] at some
    cases some
    exact spelled _ written

theorem View.endsVisible_commentLine (text : String) : Text.EndsVisible (commentLine text) := by
  rw [commentLine_eq]
  split
  · decide
  · rename_i some
    exact (Text.endsVisible_trimEnd text).append some _

theorem View.endsVisible_commentBody (text : String) (tags : List String) :
    ∀ line ∈ commentBody text tags, Text.EndsVisible line := by
  rw [commentBody_eq, List.forall_mem_map]
  exact fun line _ => endsVisible_commentLine line

section

variable {ends : LineEnds} {rule : RowRule} {depth : Nat}

theorem Javadoc.laid (allows : ends.Allows) {javadoc : Javadoc}
    (free : ∀ passage ∈ javadoc.passages, ReturnFree passage) :
    LaidFragment ends rule depth fun formatting => javadoc.written formatting.newline := by
  have text : ReturnFree javadoc.text := free _ List.mem_cons_self
  have visible : ∀ line ∈ View.commentBody javadoc.text javadoc.tagTexts, rule.allows line :=
    fun line mem => rule.visible line (View.endsVisible_commentBody _ _ line mem)
  have body : Laid ends rule depth fun formatting =>
      Text.joinWith formatting.newline (View.commentBody javadoc.text javadoc.tagTexts) :=
    .joinWith allows (View.unbroken_commentBody text (returnFree_tagTexts free)) visible
  have opening : Laid ends rule depth fun _ => "/**" :=
    .of_unbroken (by decide) (rule.visible _ (by decide))
  have closing : Laid ends rule depth fun _ => " */" :=
    .of_unbroken (by decide) (rule.visible _ (by decide))
  unfold Javadoc.written
  split
  · exact .inl rfl
  · exact .present ((opening.stack allows body).stack allows closing)

theorem Laid.commented (allows : ends.Allows) {text : Formatting → String}
    (laid : Laid ends rule depth text) {javadoc : Option Javadoc}
    (free : ∀ passage ∈ javadoc.toList.flatMap Javadoc.passages, ReturnFree passage) :
    Laid ends rule depth fun formatting =>
      commented formatting.newline javadoc (text formatting) := by
  cases javadoc with
  | none => exact laid
  | some javadoc =>
    rw [Option.toList_some, List.flatMap_singleton] at free
    have comment : LaidFragment ends rule depth fun formatting =>
        javadoc.written formatting.newline :=
      Javadoc.laid allows free
    rcases comment with absent | ⟨comment, present, above⟩
    · have bare : (fun formatting : Formatting =>
          SourceModel.commented formatting.newline (some javadoc) (text formatting)) = text := by
        funext formatting
        have none := congrFun absent formatting
        simp only [SourceModel.commented, Fragment.ofOptional, none]
      rw [bare]
      exact laid
    · have stacked : (fun formatting : Formatting =>
          SourceModel.commented formatting.newline (some javadoc) (text formatting)) =
            fun formatting => comment formatting ++ formatting.newline ++ text formatting := by
        funext formatting
        have some := congrFun present formatting
        simp only [SourceModel.commented, Fragment.ofOptional, some]
      rw [stacked]
      exact above.stack allows laid

/-! ## Members -/

theorem LaidFragment.of_returnFree {fragment : Fragment}
    (free : fragment.Spelled fun c => c ≠ '\r')
    (allowed : ∀ line ∈ Text.lines fragment.textOrEmpty, rule.allows line) :
    LaidFragment .any rule depth fun _ => fragment := by
  cases fragment with
  | absent => exact .inl rfl
  | present text => exact present (.of_returnFree (free text rfl) allowed)

end

def Field.Follows (rule : RowRule) (f : String → String) (field : Field) : Prop :=
  ∀ line ∈ Text.lines (field.line f), rule.allows line

def Statement.Follows (rule : RowRule) (s : Statement) : Prop :=
  ∀ line ∈ Text.lines s.written.textOrEmpty, rule.allows line

def Method.Follows (rule : RowRule) (method : Method) : Prop :=
  ∀ s ∈ method.body.getD [], s.Follows rule

structure Declaration.Follows (rule : RowRule) (f : String → String) (decl : Declaration) :
    Prop where
  fields : ∀ field ∈ decl.fields, field.Follows rule f
  methods : ∀ method ∈ decl.methods, method.Follows rule

section

variable {rule : RowRule} {f : String → String}

theorem Field.laid (keeps : KeepsUnbroken f) (field : Field)
    (unbroken : ∀ name ∈ field.names, Unbroken name)
    (free : ∀ passage ∈ field.passages, ReturnFree passage) (follows : field.Follows rule f) :
    Laid .any rule 0 fun formatting => field.text formatting f := by
  rw [Field.passages, List.forall_mem_append] at free
  have line : Laid .any rule 0 fun _ => field.line f :=
    .of_returnFree (field.spelled_line keeps unbroken (fun _ => And.right) free.1) follows
  exact line.commented LineEnds.any_allows free.2

theorem Method.laid (keeps : KeepsUnbroken f) (method : Method)
    (unbroken : ∀ name ∈ method.names, Unbroken name)
    (free : ∀ passage ∈ method.passages, ReturnFree passage) (follows : method.Follows rule) :
    Laid .any rule 1 fun formatting => method.text formatting f := by
  have head := method.unbroken_head keeps unbroken
  rw [Method.passages, List.forall_mem_append] at free
  refine Laid.commented LineEnds.any_allows ?_ free.2
  cases given : method.body with
  | none =>
    exact .of_unbroken (head.append (by decide))
      (rule.visible _ (.append (by decide) (by decide) _))
  | some statements =>
    rw [given, Option.getD_some, List.forall_mem_flatMap] at free
    rw [Method.Follows, given, Option.getD_some] at follows
    have each : ∀ s ∈ statements, LaidFragment .any rule 0 fun _ => s.written := by
      intro s mem
      exact .of_returnFree (s.returnFree_written (free.1 s mem)) (follows s mem)
    exact Laid.block LineEnds.any_allows head (LaidFragment.joinLines LineEnds.any_allows each)

/-! ## Declarations and files -/

theorem View.DeclarationParts.laid_members (parts : View.DeclarationParts)
    (fields : ∀ field ∈ parts.fields, Laid .any rule 1 fun formatting => field.text formatting f)
    (methods : ∀ method ∈ parts.methods,
      Laid .any rule 1 fun formatting => method.text formatting f) :
    LaidFragment .any rule 1 fun formatting => parts.members formatting f := by
  let fieldLines : Formatting → Fragment := fun formatting =>
    .join formatting.newline (parts.fields.map fun field => .present (field.text formatting f))
  let methodTexts : Formatting → Fragment := fun formatting =>
    .join formatting.blankLine
      (parts.methods.map fun method => .present (method.text formatting f))
  have both : ∀ write ∈ [fieldLines, methodTexts], LaidFragment .any rule 1 fun formatting =>
      write formatting := by
    rw [List.forall_mem_cons, List.forall_mem_singleton]
    constructor
    · exact .joinLines LineEnds.any_allows fun field mem => .present (fields field mem)
    · exact .joinApart LineEnds.any_allows fun method mem => .present (methods method mem)
  have joined := LaidFragment.joinApart LineEnds.any_allows both
  simp only [members, List.map_map]
  exact joined

theorem Declaration.laid {ends : LineEnds} (allows : ends.Allows) (keeps : KeepsUnbroken f)
    (decl : Declaration) (unbroken : ∀ name ∈ decl.names, Unbroken name)
    (free : ∀ passage ∈ decl.passages, ReturnFree passage) (follows : decl.Follows rule f) :
    Laid ends rule 2 fun formatting => decl.text formatting f := by
  have head := decl.unbroken_head keeps unbroken
  simp only [Declaration.names, List.forall_mem_append, List.forall_mem_flatMap] at unbroken
  simp only [Declaration.passages, List.forall_mem_append, List.forall_mem_flatMap] at free
  obtain ⟨⟨-, fieldNames⟩, methodNames⟩ := unbroken
  obtain ⟨⟨fieldPassages, methodPassages⟩, comment⟩ := free
  have fields : ∀ field ∈ decl.fields,
      Laid .any rule 1 fun formatting => field.text formatting f := by
    intro field mem
    have laid := field.laid keeps (fieldNames field mem) (fieldPassages field mem)
      (follows.fields field mem)
    exact laid.mono (Nat.zero_le 1)
  have methods : ∀ method ∈ decl.methods,
      Laid .any rule 1 fun formatting => method.text formatting f := by
    intro method mem
    exact method.laid keeps (methodNames method mem) (methodPassages method mem)
      (follows.methods method mem)
  have members : LaidFragment .any rule 1 fun formatting => decl.parts.members formatting f := by
    cases decl with
    | classDecl decl => exact View.DeclarationParts.laid_members _ fields methods
    | interfaceDecl decl => exact View.DeclarationParts.laid_members _ fields methods
  exact (Laid.block allows head members).commented allows (List.forall_mem_flatMap.mpr comment)

end

namespace SourceFile

def Follows (rule : RowRule) (file : SourceFile) : Prop :=
  ∀ decl ∈ file.declarations, decl.Follows rule (ImportScope.ofFile file).shortName

theorem follows_any (file : SourceFile) : file.Follows .any :=
  fun _ _ => ⟨fun _ _ _ _ => trivial, fun _ _ _ _ _ _ => trivial⟩

theorem endsVisible_importBlock (file : SourceFile) :
    ∀ line ∈ importBlock file, Text.EndsVisible line := by
  intro line mem
  rw [importBlock, OrderedSet.mem_toList_ofList] at mem
  obtain ⟨imported, -, rfl⟩ := List.mem_map.mp mem
  unfold importText
  split
  · exact .append (by decide) (by decide) _
  · exact .append (by decide) (by decide) _

variable {rule : RowRule} {file : SourceFile}

namespace KeepsLines

theorem laid_package (keeps : file.KeepsLines) :
    LaidFragment .own rule 2 fun _ =>
      .ofOption (file.package?.map fun name => "package " ++ name ++ ";") := by
  have name : Unbroken file.name := keeps.names file.name List.mem_cons_self
  cases declared : file.package? with
  | none => exact .inl rfl
  | some package =>
    have line : Unbroken ("package " ++ package ++ ";") :=
      (Text.Spelled.append (by decide) (unbroken_package name declared)).append (by decide)
    exact .present (.of_unbroken line (rule.visible _ (.append (by decide) (by decide) _)))

theorem laid_imports (keeps : file.KeepsLines) :
    LaidFragment .own rule 2 fun formatting =>
      Fragment.join formatting.newline ((importBlock file).map .present) := by
  apply LaidFragment.joinLines LineEnds.own_allows
  intro line mem
  exact .present (.of_unbroken (unbroken_importBlock keeps.names line mem)
    (rule.visible line (endsVisible_importBlock file line mem)))

theorem laid_declarations (keeps : file.KeepsLines) (follows : file.Follows rule) :
    LaidFragment .own rule 2 fun formatting =>
      Fragment.join formatting.blankLine
        (file.declarations.map fun decl =>
          .present (decl.text formatting (ImportScope.ofFile file).shortName)) := by
  have names := keeps.names
  have passages := keeps.passages
  simp only [SourceFile.names, List.forall_mem_append, List.forall_mem_flatMap] at names
  rw [SourceFile.passages, List.forall_mem_flatMap] at passages
  apply LaidFragment.joinApart LineEnds.own_allows
  intro decl mem
  exact .present (decl.laid LineEnds.own_allows (keepsUnbroken_shortName _)
    (names.2 decl mem) (passages decl mem) (follows decl mem))

theorem laid_parts (keeps : file.KeepsLines) (follows : file.Follows rule) :
    LaidFragment .own rule 2 fun formatting =>
      Fragment.join formatting.blankLine
        [.ofOption (file.package?.map fun name => "package " ++ name ++ ";"),
         Fragment.join formatting.newline ((importBlock file).map .present),
         Fragment.join formatting.blankLine
           (file.declarations.map fun decl =>
             .present (decl.text formatting (ImportScope.ofFile file).shortName))] := by
  let package : Formatting → Fragment := fun _ =>
    .ofOption (file.package?.map fun name => "package " ++ name ++ ";")
  let imports : Formatting → Fragment := fun formatting =>
    .join formatting.newline ((importBlock file).map .present)
  let declarations : Formatting → Fragment := fun formatting =>
    .join formatting.blankLine
      (file.declarations.map fun decl =>
        .present (decl.text formatting (ImportScope.ofFile file).shortName))
  have each : ∀ write ∈ [package, imports, declarations], LaidFragment .own rule 2 fun formatting =>
      write formatting := by
    rw [List.forall_mem_cons, List.forall_mem_cons, List.forall_mem_singleton]
    exact ⟨keeps.laid_package, keeps.laid_imports, keeps.laid_declarations follows⟩
  exact LaidFragment.joinApart LineEnds.own_allows each

theorem written_of_follows (keeps : file.KeepsLines) (follows : file.Follows rule) :
    (∀ formatting, file.written formatting = .absent) ∨
      ∃ text : Formatting → String, Laid .own rule 2 text ∧
        ∀ formatting, file.written formatting = .present (text formatting ++ formatting.newline) := by
  rcases keeps.laid_parts follows with absent | ⟨text, present, laid⟩
  · refine .inl fun formatting => ?_
    have none := congrFun absent formatting
    simp only [SourceFile.written, fileText, List.map_map]
    exact congrArg (Fragment.map _) none
  · refine .inr ⟨text, laid, fun formatting => ?_⟩
    have some := congrFun present formatting
    simp only [SourceFile.written, fileText, List.map_map]
    exact congrArg (Fragment.map _) some

theorem written (keeps : file.KeepsLines) :
    (∀ formatting, file.written formatting = .absent) ∨
      ∃ text : Formatting → String, Laid .own .any 2 text ∧
        ∀ formatting, file.written formatting = .present (text formatting ++ formatting.newline) :=
  keeps.written_of_follows file.follows_any

end KeepsLines

end SourceFile

/-! ## The lines of a file -/

def Formatting.flush : Formatting := ⟨"", "\n"⟩

theorem Formatting.isPlain_flush : Formatting.flush.IsPlain :=
  ⟨Text.Spelled.empty, .inl rfl⟩

/-- The text has the lines of the flush one, each as many units deep as its depth says, empty lines
as they are, and every line has the separator behind it. -/
structure Formatting.Relines (formatting : Formatting) (depths : List Nat) (flush text : String) :
    Prop where
  fits : depths.length = (Text.lines flush).length
  lines : Text.lines text =
    List.zipWith (Row.placed formatting.indent) depths (Text.lines flush)
  ended : text = Text.joinWith "" ((Text.lines text).map fun line => line ++ formatting.newline)

theorem Laid.exists_depths {rule : RowRule} {depth : Nat} {text : Formatting → String}
    (laid : Laid .own rule depth text) :
    ∃ depths : List Nat, (∀ d ∈ depths, d ≤ depth) ∧
      ∀ formatting : Formatting, formatting.IsPlain →
        formatting.Relines depths (text .flush ++ Formatting.flush.newline)
          (text formatting ++ formatting.newline) := by
  obtain ⟨rows, fit, stacked⟩ := laid
  have lines : ∀ formatting : Formatting, formatting.IsPlain →
      Text.lines (text formatting ++ formatting.newline) =
        rows.map (Row.written formatting.indent) := by
    intro formatting plain
    have ended := (stacked formatting plain).mono (LineEnds.own_allows.isLineEnd formatting plain)
    exact ended.lines_append_lineEnd plain.newline
  have flush : Text.lines (text .flush ++ Formatting.flush.newline) = rows.map Row.text := by
    rw [lines .flush Formatting.isPlain_flush]
    apply List.map_congr_left
    intro row _
    exact Row.placed_empty row.depth row.text
  -- The depths are those of the rows, which no formatting has a say in.
  refine ⟨rows.map Row.depth, ?_, fun formatting plain => ⟨?_, ?_, ?_⟩⟩
  · intro d mem
    obtain ⟨row, own, rfl⟩ := List.mem_map.mp mem
    exact (fit row own).depth_le
  · rw [flush, List.length_map, List.length_map]
  · rw [flush, lines formatting plain, List.zipWith_map, List.zipWith_self]
    rfl
  · have own := stacked formatting plain
    rw [lines formatting plain, ← Text.joinWith_append_separator own.rows_ne_nil,
      ← own.eq_joinWith]

/-- The unit of indentation and the line separator change neither whether a file is written nor
what its lines say nor how deep they stand. -/
theorem outcome_file_layout (file : SourceFile) (keeps : file.KeepsLines) :
    ∃ depths : List Nat, (∀ depth ∈ depths, depth ≤ 2) ∧
      ∀ formatting : Formatting, formatting.IsPlain → ∀ scope : ImportScope,
        let flush := ((Dialect.java.registry.generator .flush scope).on (.file file)).outcome
        let rendered := ((Dialect.java.registry.generator formatting scope).on (.file file)).outcome
        (∀ e, rendered = .error e ↔ flush = .error e) ∧
          (rendered = .ok .absent ↔ flush = .ok .absent) ∧
          ∀ text, flush = .ok (.present text) → ∃ text', rendered = .ok (.present text') ∧
            formatting.Relines depths text text' := by
  have outcome := fun formatting scope =>
    java_writesModel.outcome_on_file formatting scope file
  simp only [outcome]
  cases file.untyped? with
  | some owner => exact ⟨[], by simp, by simp [unlessUntyped]⟩
  | none =>
    rcases keeps.written with absent | ⟨text, laid, present⟩
    · exact ⟨[], by simp, by simp [unlessUntyped, absent]⟩
    · obtain ⟨depths, bounded, relines⟩ := laid.exists_depths
      refine ⟨depths, bounded, fun formatting plain scope => ⟨?_, ?_, ?_⟩⟩
      · simp [unlessUntyped]
      · simp [unlessUntyped, present]
      · intro own eq
        simp only [unlessUntyped, present] at eq ⊢
        cases eq
        exact ⟨_, rfl, relines formatting plain⟩

def tallyFile : SourceFile where
  name := "acme/Tally.java"
  declarations :=
    [.classDecl
      { name := "Tally"
        javadoc := some { text := "Counts.\n\nSlowly." }
        fields :=
          [{ name := "names", type := some (.ofName "String")
             initializer := some "join(\n\n  \"a\")" }]
        methods :=
          [{ name := "next", returns := .ofName "int"
             body := some [.simple "if (done)\n  stop();\n", .simple "return 1;"] }] }]

def tallyText : String :=
  "package acme;\n\n/**\n * Counts.\n *\n * Slowly.\n */\nclass Tally \x7b\n" ++
  "String names = join(\n\n  \"a\");\n\nint next() \x7b\nif (done)\n  stop();\n\nreturn 1;\n" ++
  "\x7d\n\x7d\n"

theorem outcome_file_layout_tallyFile :
    tallyFile.KeepsLines ∧ (⟨"\t", "\r\n"⟩ : Formatting).IsPlain ∧
    ((Dialect.java.registry.generator .flush .empty).on (.file tallyFile)).outcome =
      .ok (.present tallyText) ∧
    ∃ depths : List Nat, (∀ depth ∈ depths, depth ≤ 2) ∧ ∃ text,
      ((Dialect.java.registry.generator ⟨"\t", "\r\n"⟩ .empty).on (.file tallyFile)).outcome =
          .ok (.present text) ∧
        (⟨"\t", "\r\n"⟩ : Formatting).Relines depths tallyText text := by
  have keeps : tallyFile.KeepsLines := ⟨by decide +kernel, by decide +kernel⟩
  have plain : (⟨"\t", "\r\n"⟩ : Formatting).IsPlain := ⟨by decide, .inr rfl⟩
  have flush : ((Dialect.java.registry.generator .flush .empty).on (.file tallyFile)).outcome =
      .ok (.present tallyText) := by
    have typed : tallyFile.untyped? = none := rfl
    have written : tallyFile.written .flush = .present tallyText := by decide +kernel
    rw [java_writesModel.outcome_on_file, typed, written]
    rfl
  obtain ⟨depths, bounded, layout⟩ := outcome_file_layout tallyFile keeps
  obtain ⟨-, -, lines⟩ := layout ⟨"\t", "\r\n"⟩ plain .empty
  exact ⟨keeps, plain, flush, depths, bounded, lines _ flush⟩

end SourceModel
