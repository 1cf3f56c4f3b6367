import SourceModel.Proofs.TypeExpr.Diagnosis

namespace SourceModel.TypeExpr
open Text

/-- Whatever follows the text, the reader takes all of the text if it takes anything. -/
def TakesAll {α : Type} (reader : Reader α) (text : List Char) : Prop :=
  ∀ after a rest, reader (text ++ after) = .done a rest → rest.length ≤ after.length

theorem Sound.length_le {α : Type} {reader : Reader α} {derives : List Char → α → Prop}
    (sound : Sound reader derives) {cs rest : List Char} {a : α} (read : reader cs = .done a rest) :
    rest.length ≤ cs.length := by
  obtain ⟨text, rfl, -⟩ := sound _ _ _ read
  simp

/-! ## Where something must be read -/

theorem readDimensions_ne_missing (count : Nat) (cs : List Char) :
    readDimensions count cs ≠ .missing := by
  induction count generalizing cs with
  | zero => simp [readDimensions]
  | succ count ih =>
    simp only [readDimensions]
    split
    · split
      · rename_i behind _
        exact fun missing => ih behind (Reading.map_eq_missing.mp missing)
      · simp
    · simp

theorem readBounds_ne_missing (type : Reader TypeRef) (cs : List Char) :
    readBounds type cs ≠ .missing := by
  unfold readBounds
  split
  · simp
  · exact fun missing => Reading.orFail_ne_missing (Reading.amongBounds_eq_missing.mp missing)

theorem readWildcard_ne_missing (type : Reader TypeRef) (cs : List Char) :
    readWildcard type ('?' :: cs) ≠ .missing := by
  simp only [readWildcard]
  split
  · simp
  · exact fun missing => readBounds_ne_missing _ _ (Reading.map_eq_missing.mp missing)

theorem readType_ne_missing {c : Char} (start : isNameStart c = true) (cs : List Char) :
    readType (c :: cs) ≠ .missing := by
  intro missing
  simp only [readType, readTypeWithin, readTypeWith, readName?, start, if_true] at missing
  rcases Reading.andThen_eq_missing.mp missing with missing | ⟨gs, behind, -, missing⟩
  · exact Reading.orDefault_ne_missing missing
  · exact readDimensions_ne_missing _ _ (Reading.map_eq_missing.mp missing)

/-! ## Types -/

theorem length_readNameTail_le (cs : List Char) : (readNameTail cs).2.length ≤ cs.length := by
  have whole := congrArg List.length (append_readNameTail cs)
  rw [List.length_append] at whole
  omega

theorem IsDimensions.takesAll {cs : List Char} {n : Nat} (h : IsDimensions cs n) {count : Nat}
    (enough : n ≤ count) : TakesAll (TypeExpr.readDimensions count) cs := by
  induction h generalizing count with
  | none =>
    intro after m rest read
    exact (sound_readDimensions count).length_le read
  | pair hb hw _ ih =>
    intro after m rest read
    cases count with
    | zero => omega
    | succ count =>
      simp only [List.append_assoc, List.cons_append] at read
      rw [readDimensions_pair hb hw] at read
      obtain ⟨m, read, -⟩ := Reading.map_eq_done.mp read
      exact ih (by omega) _ _ _ read

section Types

variable {type : Reader TypeRef}

theorem length_le_of_readTypeWith (htype : Sound type DerivesType)
    {cs name behind rest : List Char} {t : TypeRef} (named : readName? cs = some (name, behind))
    (read : readTypeWith type cs = .done t rest) : rest.length ≤ behind.length := by
  simp only [readTypeWith, named] at read
  obtain ⟨gs, remaining, arguments, mapped⟩ := Reading.andThen_eq_done.mp read
  obtain ⟨n, brackets, -⟩ := Reading.map_eq_done.mp mapped
  have le := (sound_readDimensions _).length_le brackets
  rcases Reading.orDefault_eq_done.mp arguments with arguments | ⟨-, -, rfl⟩
  · exact Nat.le_trans le ((sound_readArguments htype).length_le arguments)
  · exact le

theorem takesAll_readTypeWith {name brackets behind after rest : List Char} {gs : List Generic}
    {n : Nat} {t : TypeRef} (hn : IsName name) (ends : NameEnds behind)
    (arguments : (readArguments type behind).orDefault [] behind = .done gs (brackets ++ after))
    (hd : IsDimensions brackets n) (read : readTypeWith type (name ++ behind) = .done t rest) :
    rest.length ≤ after.length := by
  have enough : n ≤ (brackets ++ after).length := by
    have le := hd.le_length
    simp only [List.length_append]
    omega
  simp only [readTypeWith, hn.readName? ends, arguments, Reading.andThen] at read
  obtain ⟨m, read, -⟩ := Reading.map_eq_done.mp read
  exact hd.takesAll enough _ _ _ read

end Types

theorem DerivesType.takesAll {cs : List Char} {t : TypeRef} (h : DerivesType cs t) :
    TakesAll TypeExpr.readType cs := by
  intro after t' rest read
  have depth := h.height_le
  simp only [TypeExpr.readType, readTypeWithin] at read
  cases h with
  | @plain name brackets n hn hd =>
    cases hd with
    -- The name may go on in what follows.
    | none =>
      rw [List.append_nil] at read
      have le := length_le_of_readTypeWith (sound_readTypeWithin _) (hn.readName?_append after) read
      exact Nat.le_trans le (length_readNameTail_le after)
    | @pair before within others n hb hw hd =>
      have stops : StopsAt ['['] (before ++ '[' :: within ++ ']' :: others ++ after) := by
        simp only [List.append_assoc]
        exact .append hb (stopsAt_cons (by simp) (by decide) _)
      rw [List.append_assoc name] at read
      exact takesAll_readTypeWith hn (stops.nameEnds (by decide))
        (Reading.orDefault_eq_done.mpr (.inr ⟨(stops.mono (by simp)).readArguments _, rfl, rfl⟩))
        (.pair hb hw hd) read
  | @generic name gap inner brackets gs n hn hg arguments hd =>
    have opened : StopsAt ['<'] (gap ++ '<' :: (inner ++ '>' :: (brackets ++ after))) :=
      .append hg (stopsAt_cons (by simp) (by decide) _)
    simp only [List.append_assoc, List.cons_append] at read
    generalize bound : (name ++ (gap ++ '<' :: (inner ++ '>' :: (brackets ++ after)))).length =
      enough at read
    have list := arguments.read enough (brackets ++ after) (by
      simp only [TypeRef.height, List.length_append, List.length_cons] at depth bound
      omega)
    have read' := list.readArguments hg
    exact takesAll_readTypeWith hn (opened.nameEnds (by decide))
      (Reading.orDefault_eq_done.mpr (.inl read')) hd read

/-! ## Bounds -/

theorem length_le_of_readMore {count : Nat} {cs rest : List Char} {ts : List TypeRef}
    (read : readMore readAmpersand? TypeExpr.readType count cs = .done ts rest) :
    rest.length ≤ cs.length := by
  induction count generalizing cs ts with
  | zero =>
    obtain ⟨-, rfl⟩ := Reading.done.inj read
    exact Nat.le_refl _
  | succ count ih =>
    simp only [readMore] at read
    split at read
    · obtain ⟨-, rfl⟩ := Reading.done.inj read
      exact Nat.le_refl _
    · rename_i behind separated
      split at read
      · obtain ⟨-, rfl⟩ := Reading.done.inj read
        exact Nat.le_refl _
      · cases read
      · rename_i t remaining taken
        obtain ⟨others, read, -⟩ := Reading.map_eq_done.mp read
        obtain ⟨gap, rfl, -⟩ := sound_readAmpersand? separated
        have le := sound_readType.length_le taken
        have le' := ih read
        rw [List.length_append]
        omega

theorem DerivesBounds.exists_cons {cs : List Char} {ts : List TypeRef} (h : DerivesBounds cs ts) :
    ∃ c tail, cs = c :: tail ∧ isNameStart c = true := by
  cases h with
  | last type => exact type.exists_cons
  | more type =>
    obtain ⟨c, tail, rfl, start⟩ := type.exists_cons
    exact ⟨c, _, rfl, start⟩

theorem DerivesBounds.length_le_of_read {cs : List Char} {ts : List TypeRef}
    (h : DerivesBounds cs ts) {after behind rest : List Char} {t : TypeRef} {us : List TypeRef}
    {count : Nat} (first : TypeExpr.readType (cs ++ after) = .done t behind)
    (enough : behind.length ≤ count)
    (others : readMore readAmpersand? TypeExpr.readType count behind = .done us rest) :
    rest.length ≤ after.length := by
  cases h with
  | last type => exact Nat.le_trans (length_le_of_readMore others) (type.takesAll _ _ _ first)
  | @more cs before gap next _ _ type hb ha bounds =>
    have whole : TypeExpr.readType (cs ++ (before ++ '&' :: (gap ++ (next ++ after)))) =
        .done _ (before ++ '&' :: (gap ++ (next ++ after))) :=
      type.readType (.append hb (stopsAt_cons (by simp) (by decide) _))
    simp only [List.append_assoc, List.cons_append] at first
    obtain ⟨-, rfl⟩ := Reading.done.inj (whole.symm.trans first)
    cases count with
    | zero => simp at enough
    | succ count =>
      simp only [readMore, readAmpersand?_append hb ha (bounds.skipSpacing after)] at others
      split at others
      · rename_i missing
        obtain ⟨c, tail, rfl, start⟩ := bounds.exists_cons
        exact absurd missing (readType_ne_missing start _)
      · cases others
      · rename_i u remaining taken
        obtain ⟨vs, others, -⟩ := Reading.map_eq_done.mp others
        have le := sound_readType.length_le taken
        refine bounds.length_le_of_read taken ?_ others
        simp only [List.length_append, List.length_cons] at enough le
        omega

theorem DerivesBounds.takesAll {gap cs : List Char} {ts : List TypeRef} (h : DerivesBounds cs ts)
    (hg : IsSpacing gap) (ng : gap ≠ []) :
    TakesAll (readBounds TypeExpr.readType) (gap ++ cs) := by
  intro after us rest read
  rw [List.append_assoc, readBounds_append hg ng (h.skipSpacing after),
    Reading.amongBounds_eq_done, Reading.orFail_eq_done] at read
  obtain ⟨t, behind, first, mapped⟩ := Reading.andThen_eq_done.mp read
  obtain ⟨others, more, -⟩ := Reading.map_eq_done.mp mapped
  exact h.length_le_of_read first (Nat.le_refl _) more

/-! ## Parameters -/

theorem DerivesWildcard.takesAll {cs : List Char} {g : Generic} (h : DerivesWildcard cs g) :
    TakesAll (readWildcard TypeExpr.readType) cs := by
  intro after g' rest read
  cases h with
  | bare =>
    obtain ⟨text, same, wildcard⟩ := sound_readWildcard sound_readType _ _ _ read
    obtain ⟨tail, rfl⟩ := wildcard.exists_cons
    obtain rfl := (List.cons.inj same).2
    simp
  | bounded hg ng keyword hg' ng' bounds =>
    simp only [List.append_assoc, List.cons_append, readWildcard,
      readBoundKeyword?_append hg ng keyword hg' ng'] at read
    obtain ⟨ts, read, -⟩ := Reading.map_eq_done.mp read
    exact bounds.takesAll hg' ng' _ _ _ (by rwa [List.append_assoc])

theorem length_le_of_readNamedParameter {cs name behind rest : List Char} {g : Generic}
    (named : readIdentifier? cs = some (name, behind))
    (read : readNamedParameter cs = .done g rest) : rest.length ≤ behind.length := by
  simp only [readNamedParameter, named] at read
  split at read
  · cases read
  · split at read
    · rename_i remaining announced
      obtain ⟨gap, rfl, -, -⟩ := sound_readBoundKeyword? announced
      obtain ⟨ts, read, -⟩ := Reading.map_eq_done.mp read
      have le := (sound_readBounds sound_readType).length_le read
      simp only [List.length_append]
      omega
    · obtain ⟨-, rfl⟩ := Reading.done.inj read
      exact Nat.le_refl _

theorem readParameter_eq_done_cases {cs rest : List Char} {g : Generic}
    (read : readParameter cs = .done g rest) :
    readWildcard TypeExpr.readType cs = .done g rest ∨ readNamedParameter cs = .done g rest ∨
      readNamedParameter cs = .missing ∧ ∃ t, TypeExpr.readType cs = .done t rest := by
  unfold readParameter at read
  split at read
  · split at read
    · rename_i missing
      obtain ⟨t, read, -⟩ := Reading.map_eq_done.mp read
      exact .inr (.inr ⟨missing, t, read⟩)
    · exact .inr (.inl read)
  · exact .inl read

theorem DerivesParameter.takesAll {cs : List Char} {g : Generic} (h : DerivesParameter cs g) :
    TakesAll readParameter cs := by
  intro after g' rest read
  cases h with
  | identifier hn =>
    rcases readParameter_eq_done_cases read with read | read | ⟨-, t, read⟩
    · rw [hn.readWildcard] at read
      cases read
    · have le := length_le_of_readNamedParameter (hn.readIdentifier?_append after) read
      exact Nat.le_trans le (List.dropWhile_sublist _).length_le
    · exact hn.derivesType.takesAll _ _ _ read
  | @named name gap gap' bounds ts hn hg ng hg' ng' derived =>
    simp only [List.append_assoc] at read
    -- Behind the keyword there is no way back to reading a type.
    have named := hn.readNamedParameter_extends hg ng hg' ng' (bounds ++ after)
    rcases readParameter_eq_done_cases read with read | read | ⟨missing, -⟩
    · rw [hn.readWildcard] at read
      cases read
    · rw [named] at read
      obtain ⟨us, read, -⟩ := Reading.map_eq_done.mp read
      exact derived.takesAll hg' ng' _ _ _ (by rwa [List.append_assoc])
    · rw [named] at missing
      exact absurd (Reading.map_eq_missing.mp missing) (readBounds_ne_missing _ _)
  | wildcard wildcard =>
    have taken := wildcard.takesAll after
    obtain ⟨tail, rfl⟩ := wildcard.exists_cons
    unfold readParameter at read
    split at read
    · rename_i missing
      exact absurd missing (readWildcard_ne_missing _ _)
    · exact taken _ _ read
  | type type ne =>
    rcases readParameter_eq_done_cases read with read | read | ⟨-, t, read⟩
    · rw [type.readWildcard] at read
      cases read
    · rw [type.readNamedParameter ne] at read
      cases read
    · exact type.takesAll _ _ _ read

/-! ## Trailing input -/

theorem Failure.code_ne_trailingInput (failure : Failure) (source : List Char) :
    (failure.diagnostic source).code ≠ some .trailingInput := by
  unfold Failure.diagnostic
  cases failure.remaining <;> simp

def Accepts {α : Type} (parse : String → Except ParseError α) (text : String) : Prop :=
  ∃ a, parse text = .ok a

/-- The text is rejected for what stands behind an expression, and the place to look at starts at
the position in bytes. -/
def TrailsAt {α : Type} (parse : String → Except ParseError α) (text : String) (position : Nat) :
    Prop :=
  ∃ e diagnostic span, parse text = .error e ∧ diagnostic ∈ e.diagnostics ∧
    diagnostic.code = some .trailingInput ∧ diagnostic.primarySpan? = some span ∧
    span.start = position

theorem reads_of_trailsAt {α : Type} {what : String} {reader : Reader α} {text : String}
    {position : Nat} (trails : TrailsAt (parseWhole what reader) text position) :
    ∃ a rest c tail, reader (skipSpacing text.toList) = .done a rest ∧
      skipSpacing rest = c :: tail ∧ position = positionOf text.toList (c :: tail) := by
  obtain ⟨e, diagnostic, span, rejected, listed, trailing, primary, rfl⟩ := trails
  unfold parseWhole at rejected
  dsimp only at rejected
  split at rejected
  · obtain rfl := Except.error.inj rejected
    obtain rfl := List.mem_singleton.mp listed
    cases trailing
  · split at rejected
    · rename_i a rest read
      split at rejected
      · cases rejected
      · rename_i remaining behind
        obtain rfl := Except.error.inj rejected
        obtain rfl := List.mem_singleton.mp listed
        obtain rfl := Option.some.inj primary
        cases skipped : skipSpacing rest with
        | nil => exact absurd skipped behind
        | cons c tail => exact ⟨a, rest, c, tail, read, skipped, rfl⟩
    · obtain rfl := Except.error.inj rejected
      obtain rfl := List.mem_singleton.mp listed
      exact absurd trailing (Failure.code_ne_trailingInput _ _)
    · obtain rfl := Except.error.inj rejected
      obtain rfl := List.mem_singleton.mp listed
      exact absurd trailing (Failure.code_ne_trailingInput _ _)

theorem skipSpacing_length_le_of_suffix {cs rest : List Char} (suffix : rest <:+ cs) :
    (skipSpacing rest).length ≤ (skipSpacing cs).length := by
  obtain ⟨front, rfl⟩ := suffix
  induction front with
  | nil => exact Nat.le_refl _
  | cons c front ih =>
    cases hc : isSpacing c with
    | true =>
      have skipped : skipSpacing (c :: front ++ rest) = skipSpacing (front ++ rest) := by
        simp [skipSpacing, hc]
      rwa [skipped]
    | false =>
      have le := skipSpacing_length_le rest
      rw [List.cons_append, skipSpacing_cons hc]
      simp only [List.length_cons, List.length_append]
      omega

theorem isSpacing_of_skipSpacing {cs tail : List Char} {c : Char}
    (skipped : skipSpacing cs = c :: tail) : isSpacing c = false := by
  have first := List.head?_dropWhile_not isSpacing cs
  unfold skipSpacing at skipped
  rw [skipped] at first
  simpa using first

/-- The prefix of the text that ends at the position in bytes is accepted, no longer one is, and
the character behind it is no spacing. -/
structure LongestBefore (accepted : String → Prop) (text : String) (position : Nat) : Prop where
  ends : ∃ before rest c, text = before ++ rest ∧ before.utf8ByteSize = position ∧
    accepted before ∧ rest.toList.head? = some c ∧ isSpacing c = false
  longest : ∀ longer rest, text = longer ++ rest → position < longer.utf8ByteSize →
    ¬ accepted longer

def IsWhole (derives : List Char → Prop) (text : String) : Prop :=
  ∃ before body after, text.toList = before ++ body ++ after ∧ IsSpacing before ∧ derives body ∧
    IsSpacing after

theorem LongestBefore.congr {accepted accepted' : String → Prop} {text : String} {position : Nat}
    (same : ∀ text, accepted text ↔ accepted' text) (h : LongestBefore accepted text position) :
    LongestBefore accepted' text position := by
  obtain rfl : accepted = accepted' := funext fun text => propext (same text)
  exact h

theorem IsWhole.length_skipSpacing_le {α : Type} {reader : Reader α} {derives : List Char → Prop}
    (all : ∀ body, derives body → TakesAll reader body)
    (starts : ∀ body rest, derives body → skipSpacing (body ++ rest) = body ++ rest)
    {longer others : String} (whole : IsWhole derives longer) {a : α} {rest : List Char}
    (read : reader (skipSpacing (longer ++ others).toList) = .done a rest)
    (left : rest <:+ skipSpacing (longer ++ others).toList) :
    (skipSpacing rest).length ≤ others.toList.length := by
  obtain ⟨before, body, after, split, hb, derived, ha⟩ := whole
  have start : skipSpacing (longer ++ others).toList = body ++ (after ++ others.toList) := by
    rw [String.toList_append, split, List.append_assoc, List.append_assoc, skipSpacing_append hb,
      starts _ _ derived]
  rw [start] at read left
  -- The reader leaves what the expression leaves, or less of it.
  have less : rest <:+ after ++ others.toList :=
    List.suffix_of_suffix_length_le left ⟨body, rfl⟩ (all _ derived _ _ _ read)
  have le := skipSpacing_length_le_of_suffix less
  rw [skipSpacing_append ha] at le
  exact Nat.le_trans le (skipSpacing_length_le _)

theorem longestBefore_of_reads {α : Type} {reader : Reader α} {derives : List Char → Prop}
    (takes : ∀ cs a rest, reader cs = .done a rest → ∃ body, cs = body ++ rest ∧ derives body)
    (all : ∀ body, derives body → TakesAll reader body)
    (starts : ∀ body rest, derives body → skipSpacing (body ++ rest) = body ++ rest)
    {text : String} {a : α} {rest tail : List Char} {c : Char}
    (read : reader (skipSpacing text.toList) = .done a rest) (behind : skipSpacing rest = c :: tail) :
    LongestBefore (IsWhole derives) text (positionOf text.toList (c :: tail)) := by
  obtain ⟨before, split, hb⟩ := exists_spacing text.toList
  obtain ⟨after, split', ha⟩ := exists_spacing rest
  obtain ⟨body, same, derived⟩ := takes _ _ _ read
  have whole : text.toList = (before ++ body ++ after) ++ c :: tail := by
    rw [split, same, split', behind]
    simp only [List.append_assoc]
  have position : positionOf text.toList (c :: tail) = utf8Length (before ++ body ++ after) := by
    rw [whole, positionOf_append]
  constructor
  · refine ⟨String.ofList (before ++ body ++ after), String.ofList (c :: tail), c, ?_, ?_, ?_, ?_, ?_⟩
    · rw [← String.toList_inj]
      simp [whole]
    · rw [utf8ByteSize_ofList, position]
    · exact ⟨before, body, after, by simp, hb, derived, ha⟩
    · simp
    · exact isSpacing_of_skipSpacing behind
  · rintro longer others rfl beyond expression
    -- A longer prefix would leave less than the reader does, which takes all of any expression.
    have short : (c :: tail).length ≤ others.toList.length := by
      rw [← behind]
      exact expression.length_skipSpacing_le all starts read ⟨body, same.symm⟩
    have covered : longer.toList <+: before ++ body ++ after := by
      rw [String.toList_append] at whole
      refine List.prefix_of_prefix_length_le ⟨_, rfl⟩ ⟨_, whole.symm⟩ ?_
      have lengths : longer.toList.length + others.toList.length =
          (before ++ body ++ after).length + (c :: tail).length := by
        rw [← List.length_append, whole, List.length_append]
      omega
    obtain ⟨more, covered⟩ := covered
    rw [position, ← covered, utf8Length_append, ← utf8ByteSize_ofList, String.ofList_toList] at beyond
    omega

theorem isWhole_type_iff (text : String) :
    IsWhole (fun body => ∃ type, DerivesType body type) text ↔ Accepts parseType text := by
  constructor
  · rintro ⟨before, body, after, split, hb, ⟨type, derived⟩, ha⟩
    exact ⟨type, parseType_of_derives split hb derived ha⟩
  · rintro ⟨type, parsed⟩
    obtain ⟨before, body, after, split, hb, derived, ha⟩ := exists_derivation_of_parseType parsed
    exact ⟨before, body, after, split, hb, ⟨type, derived⟩, ha⟩

theorem isWhole_parameter_iff (text : String) :
    IsWhole (fun body => ∃ generic, DerivesParameter body generic) text ↔
      Accepts parseGeneric text := by
  simp only [Accepts, parseGeneric_eq_ok_iff, IsWhole]
  constructor
  · rintro ⟨before, body, after, split, hb, ⟨generic, derived⟩, ha⟩
    exact ⟨generic, before, body, after, split, hb, derived, ha⟩
  · rintro ⟨generic, before, body, after, split, hb, derived, ha⟩
    exact ⟨before, body, after, split, hb, ⟨generic, derived⟩, ha⟩

/-- A text with something behind an expression is diagnosed right behind its longest prefix that is
an expression. -/
theorem longestBefore_of_trailsAt (text : String) (position : Nat) :
    (TrailsAt parseType text position → LongestBefore (Accepts parseType) text position) ∧
    (TrailsAt parseGeneric text position →
      LongestBefore (Accepts parseGeneric) text position) := by
  constructor
  · intro trails
    obtain ⟨type, rest, c, tail, read, behind, rfl⟩ := reads_of_trailsAt trails
    refine .congr isWhole_type_iff (longestBefore_of_reads ?_ ?_ ?_ read behind)
    · intro cs type rest read
      obtain ⟨body, same, derived⟩ := sound_readType _ _ _ read
      exact ⟨body, same, type, derived⟩
    · rintro body ⟨type, derived⟩
      exact derived.takesAll
    · rintro body rest ⟨type, derived⟩
      exact derived.skipSpacing rest
  · intro trails
    obtain ⟨generic, rest, c, tail, read, behind, rfl⟩ := reads_of_trailsAt trails
    refine .congr isWhole_parameter_iff (longestBefore_of_reads ?_ ?_ ?_ read behind)
    · intro cs generic rest read
      exact exists_derivation_of_readParameter read
    · rintro body ⟨generic, derived⟩
      exact derived.takesAll
    · rintro body rest ⟨generic, derived⟩
      exact derived.skipSpacing rest

theorem longestBefore_of_trailsAt_ampersand :
    TrailsAt parseType "Set<é>[ ] & x" 11 ∧ TrailsAt parseGeneric "Set<é>[ ] & x" 11 ∧
      LongestBefore (Accepts parseType) "Set<é>[ ] & x" 11 ∧
      LongestBefore (Accepts parseGeneric) "Set<é>[ ] & x" 11 := by
  have type : TrailsAt parseType "Set<é>[ ] & x" 11 :=
    ⟨⟨[trailingDiagnostic "type expression" "Set<é>[ ] & x".toList "& x".toList]⟩, _, _,
      by decide +kernel, List.mem_singleton_self _, rfl, rfl, by decide +kernel⟩
  have generic : TrailsAt parseGeneric "Set<é>[ ] & x" 11 :=
    ⟨⟨[trailingDiagnostic "generic expression" "Set<é>[ ] & x".toList "& x".toList]⟩, _, _,
      by decide +kernel, List.mem_singleton_self _, rfl, rfl, by decide +kernel⟩
  exact ⟨type, generic, (longestBefore_of_trailsAt _ _).1 type,
    (longestBefore_of_trailsAt _ _).2 generic⟩

def isAsciiBlank (c : Char) : Bool := ['\t', '\n', '\x0c', '\r', ' '].contains c

theorem trailsAt_formFeed :
    TrailsAt parseType "A\x0c" 1 ∧ TrailsAt parseGeneric "A\x0c" 1 ∧ "A".utf8ByteSize = 1 ∧
      "A\x0c".toList = "A".toList ++ ['\x0c'] ∧ isAsciiBlank '\x0c' = true := by
  refine ⟨?_, ?_, rfl, rfl, rfl⟩
  · exact ⟨⟨[trailingDiagnostic "type expression" "A\x0c".toList ['\x0c']]⟩, _, _,
      by decide +kernel, List.mem_singleton_self _, rfl, rfl, by decide +kernel⟩
  · exact ⟨⟨[trailingDiagnostic "generic expression" "A\x0c".toList ['\x0c']]⟩, _, _,
      by decide +kernel, List.mem_singleton_self _, rfl, rfl, by decide +kernel⟩

end SourceModel.TypeExpr
