import SourceModel.Failure
import SourceModel.Proofs.TypeExpr.Failures
import SourceModel.Proofs.TypeExpr.Parameters

namespace SourceModel

theorem Text.utf8ByteSize_ofList (cs : List Char) :
    (String.ofList cs).utf8ByteSize = Text.utf8Length cs := by
  induction cs with
  | nil => rfl
  | cons c rest ih =>
    rw [String.ofList_cons, String.utf8ByteSize_append, String.utf8ByteSize_singleton, ih,
      Text.utf8Length]

/-- The span covers the piece of a text that stands behind `before`, counted in bytes. -/
structure Span.Covers (span : Span) (before piece : String) : Prop where
  start : span.start = before.utf8ByteSize
  stop : span.stop = (before ++ piece).utf8ByteSize

theorem Span.covers_between (before piece : List Char) :
    (Span.between (Text.utf8Length before)
      (Text.utf8Length before + Text.utf8Length piece)).Covers (String.ofList before)
        (String.ofList piece) := by
  refine ⟨?_, ?_⟩
  · rw [Text.utf8ByteSize_ofList]
    rfl
  · rw [String.utf8ByteSize_append, Text.utf8ByteSize_ofList, Text.utf8ByteSize_ofList]
    exact Nat.max_eq_left (Nat.le_add_right _ _)

def Label.LiesIn (label : Label) (text : String) : Prop :=
  ∃ before piece after, text = before ++ piece ++ after ∧ label.span.Covers before piece

namespace TypeExpr
open Text

/-- What the first label of a diagnosis covers: the piece between two parts of the text. -/
def Marks : ErrorCode → (before piece after : String) → Prop
  | .emptyInput, before, _, after => before = "" ∧ after = ""
  | .unexpectedCharacter, _, _, _ => False
  | .unexpectedToken, _, piece, _ => piece.length = 1
  | .incompleteInput, _, piece, after => piece = "" ∧ after = ""
  | .trailingInput, _, piece, after => piece ≠ "" ∧ after = ""

def MarksInnermostAngle (labels : List Label) (text : String) : Prop :=
  ∃ label outer inner, labels = [label] ∧ label.isPrimary = false ∧
    text = outer ++ "<" ++ inner ∧ innermostAngle? text = some outer.utf8ByteSize ∧
    label.span.Covers outer "<"

structure Diagnoses (diagnostic : Diagnostic) (text : String) : Prop where
  severity : diagnostic.severity = .error
  empty_iff : diagnostic.code = some .emptyInput ↔ allBlank text = true
  labels : ∃ code first others before piece after, diagnostic.code = some code ∧
    diagnostic.labels = first :: others ∧ first.isPrimary = true ∧
    text = before ++ piece ++ after ∧ first.span.Covers before piece ∧
    Marks code before piece after ∧
    if diagnostic.message = "expected `,` or `>`" then MarksInnermostAngle others before
    else others = []

theorem Diagnoses.liesIn {diagnostic : Diagnostic} {text : String}
    (diagnoses : Diagnoses diagnostic text) :
    diagnostic.labels ≠ [] ∧ ∀ label ∈ diagnostic.labels, label.LiesIn text := by
  obtain ⟨code, first, others, before, piece, after, -, labels, -, rfl, covers, -, rest⟩ :=
    diagnoses.labels
  rw [labels]
  refine ⟨List.cons_ne_nil _ _, List.forall_mem_cons.mpr ⟨⟨_, _, _, rfl, covers⟩, ?_⟩⟩
  split at rest
  · obtain ⟨label, outer, inner, rfl, -, rfl, -, covers⟩ := rest
    rw [List.forall_mem_singleton]
    exact ⟨outer, "<", inner ++ piece ++ after, by simp only [String.append_assoc], covers⟩
  · rw [rest]
    nofun

theorem positionOf_append (taken remaining : List Char) :
    positionOf (taken ++ remaining) remaining = utf8Length taken := by
  rw [positionOf, utf8Length_append, Nat.add_sub_cancel]

def Failure.openedLabels (failure : Failure) (source : List Char) : List Label :=
  match failure.expected with
  | .listEnd opening =>
    [⟨.between (positionOf source opening) (positionOf source opening + 1),
      "generic argument list opened here", false⟩]
  | _ => []

theorem Failure.message_eq_iff (failure : Failure) (source : List Char) :
    (failure.diagnostic source).message = "expected `,` or `>`" ↔
      ∃ opening, failure.expected = .listEnd opening := by
  have message : (failure.diagnostic source).message = "expected " ++ failure.expected.what := by
    unfold Failure.diagnostic
    cases failure.remaining <;> rfl
  rw [message]
  cases failure.expected with
  | listEnd opening => exact ⟨fun _ => ⟨opening, rfl⟩, fun _ => rfl⟩
  | typeName => exact ⟨fun same => absurd same (by decide), nofun⟩
  | closingBracket => exact ⟨fun same => absurd same (by decide), nofun⟩
  | boundType => exact ⟨fun same => absurd same (by decide), nofun⟩

theorem Failure.Within.openedLabels {failure : Failure} {taken : List Char} {text : String}
    (source : text.toList = taken ++ failure.remaining)
    (opened : ∀ opening, failure.expected = .listEnd opening →
      ∃ before inner, taken = before ++ '<' :: inner ∧
        opening = '<' :: inner ++ failure.remaining ∧ Balanced inner) :
    if (failure.diagnostic text.toList).message = "expected `,` or `>`" then
      MarksInnermostAngle (failure.openedLabels text.toList) (String.ofList taken)
    else failure.openedLabels text.toList = [] := by
  unfold Failure.openedLabels
  split
  · rename_i expected
    obtain ⟨opening, list⟩ := (failure.message_eq_iff _).mp expected
    obtain ⟨before, inner, rfl, rfl, balanced⟩ := opened opening list
    have position : positionOf text.toList ('<' :: inner ++ failure.remaining) =
        utf8Length before := by
      rw [source, List.append_assoc]
      exact positionOf_append before _
    rw [list]
    dsimp only
    rw [position]
    refine ⟨_, String.ofList before, String.ofList inner, rfl, rfl, ?_, ?_,
      Span.covers_between before ['<']⟩
    · simp [← String.toList_inj]
    · rw [utf8ByteSize_ofList]
      exact innermostAngle?_append before balanced
  · rename_i different
    rw [failure.message_eq_iff, not_exists] at different
    split
    · rename_i opening list
      exact absurd list (different opening)
    · rfl

theorem Failure.Within.diagnoses {failure : Failure} {text : String}
    (within : failure.Within text.toList) (visible : allBlank text = false) :
    Diagnoses (failure.diagnostic text.toList) text := by
  obtain ⟨taken, source, opened⟩ := within
  have others := Failure.Within.openedLabels source opened
  have position : positionOf text.toList failure.remaining = utf8Length taken := by
    rw [source, positionOf_append]
  -- At the end of the text the first label is empty; anywhere else it covers one character.
  cases rest : failure.remaining with
  | nil =>
    have made : failure.diagnostic text.toList =
        { severity := .error
          message := "expected " ++ failure.expected.what
          code := some .incompleteInput
          labels := ⟨.between (utf8Length taken) (utf8Length taken), "input ends here", true⟩ ::
            failure.openedLabels text.toList
          help := failure.help? } := by
      rw [Failure.diagnostic, position, rest]
      rfl
    have whole : text = String.ofList taken ++ "" ++ "" := by
      simp [← String.toList_inj, source, rest]
    rw [made] at others ⊢
    exact ⟨rfl, by simp [visible], .incompleteInput, _, _, _, "", "", rfl, rfl, rfl, whole,
      Span.covers_between taken [], ⟨rfl, rfl⟩, others⟩
  | cons c after =>
    have made : failure.diagnostic text.toList =
        { severity := .error
          message := "expected " ++ failure.expected.what
          code := some .unexpectedToken
          labels := ⟨.between (utf8Length taken) (utf8Length taken + c.utf8Size),
            "unexpected `" ++ String.ofList [c] ++ "`", true⟩ ::
            failure.openedLabels text.toList
          help := failure.help? } := by
      rw [Failure.diagnostic, position, rest]
      rfl
    have whole : text = String.ofList taken ++ String.ofList [c] ++ String.ofList after := by
      simp [← String.toList_inj, source, rest]
    rw [made] at others ⊢
    exact ⟨rfl, by simp [visible], .unexpectedToken, _, _, _, String.ofList [c], _, rfl, rfl, rfl,
      whole, Span.covers_between taken [c], String.length_ofList, others⟩

theorem diagnoses_empty (what : String) {text : String} (blank : allBlank text = true) :
    Diagnoses (emptyDiagnostic what text.toList) text := by
  have message : (emptyDiagnostic what text.toList).message ≠ "expected `,` or `>`" := by
    simp [emptyDiagnostic, ← String.toList_inj]
  have whole : text = "" ++ String.ofList text.toList ++ "" := by simp
  refine ⟨rfl, by simp [emptyDiagnostic, blank], .emptyInput, _, [], "", _, "", rfl, rfl, rfl,
    whole, ?_, ⟨rfl, rfl⟩, ?_⟩
  · have covers := Span.covers_between [] text.toList
    rwa [utf8Length, Nat.zero_add] at covers
  · rw [if_neg message]

theorem diagnoses_trailing (what : String) {text : String} {taken : List Char} {c : Char}
    {rest : List Char} (source : text.toList = taken ++ c :: rest)
    (visible : allBlank text = false) :
    Diagnoses (trailingDiagnostic what text.toList (c :: rest)) text := by
  have message : (trailingDiagnostic what text.toList (c :: rest)).message ≠
      "expected `,` or `>`" := by
    simp [trailingDiagnostic, ← String.toList_inj]
  have whole : text = String.ofList taken ++ String.ofList (c :: rest) ++ "" := by
    simp [← String.toList_inj, source]
  refine ⟨rfl, by simp [trailingDiagnostic, visible], .trailingInput, _, [], _, _, "", rfl, rfl,
    rfl, whole, ?_, ⟨?_, rfl⟩, ?_⟩
  · have covers := Span.covers_between taken (c :: rest)
    rw [← utf8Length_append, ← source] at covers
    dsimp only
    rwa [source, positionOf_append, ← source]
  · simp [← String.toList_inj]
  · rw [if_neg message]

theorem diagnoses_of_parseWhole {α : Type} {what : String} {reader : Reader α} {text : String}
    {e : ParseError} (takes : ∀ cs a rest, reader cs = .done a rest → ∃ front, cs = front ++ rest)
    (fails : FailsWithin reader) (rejected : parseWhole what reader text = .error e) :
    ∃ diagnostic, e = ⟨[diagnostic]⟩ ∧ Diagnoses diagnostic text := by
  obtain ⟨gap, source, -⟩ := exists_spacing text.toList
  unfold parseWhole at rejected
  dsimp only at rejected
  split at rejected
  · rename_i blank
    exact ⟨_, (Except.error.inj rejected).symm, diagnoses_empty what blank⟩
  · rename_i visible
    have visible : allBlank text = false := Bool.eq_false_iff.mpr visible
    split at rejected
    · rename_i value rest read
      split at rejected
      · cases rejected
      · rename_i remaining trailing
        obtain ⟨front, same⟩ := takes _ _ _ read
        obtain ⟨between, same', -⟩ := exists_spacing rest
        cases skipped : skipSpacing rest with
        | nil => exact absurd skipped trailing
        | cons c tail =>
          rw [skipped] at rejected same'
          have split : text.toList = (gap ++ front ++ between) ++ c :: tail := by
            rw [source, same, same']
            simp only [List.append_assoc]
          exact ⟨_, (Except.error.inj rejected).symm, diagnoses_trailing what split visible⟩
    · rename_i failure failed
      have within := (fails _ _ failed).append gap
      rw [← source] at within
      exact ⟨_, (Except.error.inj rejected).symm, within.diagnoses visible⟩
    · have within : Failure.Within ⟨.typeName, skipSpacing text.toList, false⟩
          (gap ++ skipSpacing text.toList) := .of_suffix gap (by simp)
      rw [← source] at within
      exact ⟨_, (Except.error.inj rejected).symm, within.diagnoses visible⟩

/-- A text that is rejected as a type or as a parameter has one diagnosis, and is reported with it:
all labels of the report lie in the text. -/
theorem exists_diagnosis_of_rejected {text : String} {e : ParseError}
    (rejected : parseType text = .error e ∨ parseGeneric text = .error e) :
    ∃ diagnostic report labels, e.diagnostics = [diagnostic] ∧ Diagnoses diagnostic text ∧
      (SourceModel.Failure.parse e text).reports = [report] ∧ report.source = some text ∧
      report.labels = some labels ∧ labels = diagnostic.labels ∧
      ∀ label ∈ labels, label.LiesIn text := by
  have diagnosed : ∃ diagnostic, e = ⟨[diagnostic]⟩ ∧ Diagnoses diagnostic text := by
    rcases rejected with rejected | rejected
    · refine diagnoses_of_parseWhole (fun cs a rest read => ?_) failsWithin_readType rejected
      obtain ⟨front, same, -⟩ := sound_readType _ _ _ read
      exact ⟨front, same⟩
    · exact diagnoses_of_parseWhole (fun _ _ _ read => exists_of_readParameter read)
        failsWithin_readParameter rejected
  obtain ⟨diagnostic, rfl, diagnoses⟩ := diagnosed
  obtain ⟨some, inside⟩ := diagnoses.liesIn
  refine ⟨diagnostic, diagnostic.report text, diagnostic.labels, rfl, diagnoses, rfl, rfl, ?_, rfl,
    inside⟩
  rw [Diagnostic.report, if_neg (by simpa using some)]

def unendedSet : ParseError :=
  ⟨[{ severity := .error
      message := "expected `,` or `>`"
      code := some .unexpectedToken
      labels := [⟨.between 14 15, "unexpected `x`", true⟩,
        ⟨.between 10 11, "generic argument list opened here", false⟩]
      help := some "close the generic argument list with `>`" }]⟩

theorem exists_diagnosis_of_rejected_unendedSet :
    parseType "Map<V, Set<é x" = .error unendedSet ∧
      ∃ diagnostic report labels, unendedSet.diagnostics = [diagnostic] ∧
        Diagnoses diagnostic "Map<V, Set<é x" ∧
        (SourceModel.Failure.parse unendedSet "Map<V, Set<é x").reports = [report] ∧
        report.source = some "Map<V, Set<é x" ∧ report.labels = some labels ∧
        labels = diagnostic.labels ∧ ∀ label ∈ labels, label.LiesIn "Map<V, Set<é x" := by
  have rejected : parseType "Map<V, Set<é x" = .error unendedSet := by decide +kernel
  exact ⟨rejected, exists_diagnosis_of_rejected (.inl rejected)⟩

end TypeExpr

end SourceModel
