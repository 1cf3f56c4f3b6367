import SourceModel.Proofs.FileLayout
import SourceModel.Proofs.Joins

namespace SourceModel

open Text (Unbroken EndsVisible)

mutual
theorem Statement.passages_eq : ∀ s : Statement, s.passages = s.leaves
  | .simple _ => rfl
  | .composite children => Statement.childPassages_eq children
theorem Statement.childPassages_eq : ∀ ss : List Statement,
    Statement.childPassages ss = Statement.leavesAll ss
  | [] => rfl
  | s :: rest => by
    rw [Statement.childPassages, Statement.leavesAll, s.passages_eq,
      Statement.childPassages_eq rest]
end

theorem Statement.textOrEmpty_written (s : Statement) :
    s.written.textOrEmpty = Text.joinWith "" s.passages := by
  rw [s.written_eq, s.passages_eq, Text.joinWith_eq_intercalate, Text.intercalate_empty]
  split
  · rename_i none
    rw [none, String.join_nil]
    rfl
  · rfl

/-- Names and initializers stand within a line, no string has a carriage return, and no line of
what a statement says ends in white space. -/
structure SourceFile.KeepsEnds (file : SourceFile) : Prop extends file.KeepsLines where
  initializers : ∀ decl ∈ file.declarations, ∀ field ∈ decl.fields,
    ∀ initializer ∈ field.initializer, Unbroken initializer
  statements : ∀ decl ∈ file.declarations, ∀ method ∈ decl.methods,
    ∀ s ∈ method.body.getD [], ∀ line ∈ Text.lines (Text.joinWith "" s.passages), EndsVisible line

theorem Text.Unbroken.eq_of_mem_lines {text line : String} (unbroken : Unbroken text)
    (mem : line ∈ lines text) : line = text := by
  have single : Stacked IsLineEnd [text] text := .single unbroken
  rw [single.lines] at mem
  exact List.mem_singleton.mp (mem_of_mem_trimLast mem)

theorem Field.endsVisible_line (f : String → String) (field : Field) :
    EndsVisible (field.line f) :=
  .append (by decide) (by decide) _

namespace SourceFile

variable {file : SourceFile}

theorem KeepsEnds.follows (keeps : file.KeepsEnds) : file.Follows .endsVisible := by
  have names := keeps.names
  simp only [SourceFile.names, Declaration.names, List.forall_mem_append, List.forall_mem_flatMap]
    at names
  intro decl declared
  constructor
  · intro field mem line own
    have initializer := keeps.initializers decl declared field mem
    have unbroken : Unbroken (field.line (ImportScope.ofFile file).shortName) :=
      field.spelled_line (keepsUnbroken_shortName _) ((names.2 decl declared).1.2 field mem)
        (fun _ => id) fun own given => initializer own (Option.mem_toList.mp given)
    obtain rfl := unbroken.eq_of_mem_lines own
    exact field.endsVisible_line _
  · intro method mem s own
    rw [Statement.Follows, s.textOrEmpty_written]
    exact keeps.statements decl declared method mem s own

end SourceFile

theorem Row.endsVisible_written (unit : String) {row : Row} (visible : EndsVisible row.text) :
    EndsVisible (row.written unit) := by
  unfold written placed
  split
  · decide
  · rename_i some
    exact visible.append some _

theorem Laid.endsVisible_lines {depth : Nat} {text : Formatting → String}
    (laid : Laid .own .endsVisible depth text) {formatting : Formatting}
    (plain : formatting.IsPlain) :
    ∀ line ∈ Text.lines (text formatting ++ formatting.newline), EndsVisible line := by
  obtain ⟨rows, fit, stacked⟩ := laid
  have own := (stacked formatting plain).mono (LineEnds.own_allows.isLineEnd formatting plain)
  rw [own.lines_append_lineEnd plain.newline, List.forall_mem_map]
  intro row mem
  exact row.endsVisible_written formatting.indent (fit row mem).allowed

/-- Under no plain formatting does a line that is written for the file end in white space. -/
theorem endsVisible_of_outcome_file (file : SourceFile) (keeps : file.KeepsEnds)
    (formatting : Formatting) (plain : formatting.IsPlain) (scope : ImportScope) (text : String)
    (rendered : ((Dialect.java.registry.generator formatting scope).on (.file file)).outcome =
      .ok (.present text)) :
    ∀ line ∈ Text.lines text, EndsVisible line := by
  rw [java_writesModel.outcome_on_file] at rendered
  cases typed : file.untyped? with
  | some owner =>
    rw [typed] at rendered
    cases rendered
  | none =>
    rw [typed] at rendered
    have written : file.written formatting = .present text := Except.ok.inj rendered
    rcases keeps.written_of_follows keeps.follows with absent | ⟨laidText, laid, present⟩
    · rw [absent] at written
      cases written
    · rw [present] at written
      obtain rfl := Fragment.present.inj written
      exact laid.endsVisible_lines plain

def stepperFile : SourceFile where
  name := "a/Stepper.java"
  declarations :=
    [.classDecl
      { name := "Stepper"
        fields := [{ name := "n", type := some (.ofName "int"), initializer := some "0" }]
        methods :=
          [{ name := "next", returns := .ofName "int"
             javadoc := some
              { text := "Steps. \n \t", tags := [{ name := "see", text := some "" }] }
             body := some
              [.composite [.simple "if (b)\n\n", .simple "  stop();"], .simple ""] }] }]

def stepperText : String :=
  "package a;\r\n\r\nclass Stepper \x7b\r\n\tint n = 0;\r\n\r\n" ++
  "\t/**\r\n\t * Steps.\r\n\t *\r\n\t *\r\n\t * @see\r\n\t */\r\n" ++
  "\tint next() \x7b\r\n\t\tif (b)\r\n\r\n\t\t  stop();\r\n\t\x7d\r\n\x7d\r\n"

theorem endsVisible_of_outcome_file_stepperFile :
    stepperFile.KeepsEnds ∧ (⟨"\t", "\r\n"⟩ : Formatting).IsPlain ∧
    ((Dialect.java.registry.generator ⟨"\t", "\r\n"⟩ .empty).on (.file stepperFile)).outcome =
      .ok (.present stepperText) ∧
    ∀ line ∈ Text.lines stepperText, EndsVisible line := by
  have keeps : stepperFile.KeepsEnds :=
    ⟨⟨by decide +kernel, by decide +kernel⟩, by decide +kernel, by decide +kernel⟩
  have plain : (⟨"\t", "\r\n"⟩ : Formatting).IsPlain := ⟨by decide, .inr rfl⟩
  have rendered : ((Dialect.java.registry.generator ⟨"\t", "\r\n"⟩ .empty).on
      (.file stepperFile)).outcome = .ok (.present stepperText) := by
    have typed : stepperFile.untyped? = none := rfl
    have written : stepperFile.written ⟨"\t", "\r\n"⟩ = .present stepperText := by decide +kernel
    rw [java_writesModel.outcome_on_file, typed, written]
    rfl
  exact ⟨keeps, plain, rendered, endsVisible_of_outcome_file _ keeps _ plain _ _ rendered⟩

end SourceModel
