import SourceModel.Proofs.TypeExpr.Diagnosis
import SourceModel.Proofs.TypeExpr.StoppedReadings

/-!
# Texts that stop too early

A type expression that is cut off in a list of arguments is read as far as it goes. What then is
missing is missed at the end of the text, unless the text ends in a separator: reading stops in
front of the separator and blames it (`parseType_of_cut`).

One lemma for each production says how the front of a derived text is read. The induction is on the
derivation of the whole text, and its cases are the places where the text may be cut.
-/

namespace SourceModel.TypeExpr
open Text

/-! ## Derived texts that are cut off -/

section

variable {depth : Nat} {gap gap' body trailing cs after : List Char} {ts : List TypeRef}

theorem stopsAtEnd_cutBounds (hg : IsSpacing gap) (ng : gap ≠ []) (keyword : BoundKeyword)
    (hg' : IsSpacing gap') (ng' : gap' ≠ []) (bounds : DerivesBounds body ts)
    (ha : IsSpacing trailing)
    (cut : ∀ cs after, body = cs ++ after → BetweenTokens cs after → cs.length < depth →
      StopsAtEnd skipSpacing cs (readList readAmpersand? (readTypeWithin depth) cs))
    (split : body ++ trailing = cs ++ after) (between : BetweenTokens cs after)
    (enough : cs.length < depth) :
    StopsAtEnd skipSpacing ('?' :: (gap ++ (keyword.name.toList ++ (gap' ++ cs))))
      (readArgument (readTypeWithin depth)
        ('?' :: (gap ++ (keyword.name.toList ++ (gap' ++ cs))))) := by
  rcases cut_append split with ⟨others, rfl, rfl⟩ | ⟨rest, rfl, rfl⟩
  · by_cases empty : cs = []
    · rw [empty, List.append_nil]
      exact stopsAtEnd_keyword (readTypeWithin_spacing isSpacing_nil depth) hg ng keyword hg'
    · obtain ⟨c, tail, starts, start⟩ := exists_cons_of_cut bounds.exists_cons rfl empty
      exact stopsAtEnd_bounded hg ng keyword hg' ng' starts start
        (cut cs others rfl between.of_front enough)
  · obtain ⟨c, tail, starts, start⟩ := bounds.exists_cons
    have height : Generic.heightBounds ts ≤ depth := by
      have le := bounds.heightBounds_le
      rw [List.length_append] at enough
      omega
    have list := (bounds.read depth rest height (stopsAt_spacing ha.of_append _)).readList
    refine stopsAtEnd_bounded hg ng keyword hg' ng' (by rw [starts, List.cons_append]) start ?_
    rw [list]
    exact stopsAtEnd_whole bounds.dangling ha.of_append _

theorem stopsAtEnd_cutWildcard (hg : IsSpacing gap) (ng : gap ≠ []) (keyword : BoundKeyword)
    (hg' : IsSpacing gap') (ng' : gap' ≠ []) (bounds : DerivesBounds body ts)
    (ha : IsSpacing trailing)
    (cut : ∀ cs after, body = cs ++ after → BetweenTokens cs after → cs.length < depth →
      StopsAtEnd skipSpacing cs (readList readAmpersand? (readTypeWithin depth) cs))
    (split : gap ++ (keyword.name.toList ++ (gap' ++ (body ++ trailing))) = cs ++ after)
    (between : BetweenTokens cs after) (enough : cs.length < depth) :
    StopsAtEnd skipSpacing ('?' :: cs) (readArgument (readTypeWithin depth) ('?' :: cs)) := by
  have nothing := readTypeWithin_spacing isSpacing_nil depth
  rcases cut_append split with ⟨others, rfl, -⟩ | ⟨front, rfl, spaced⟩
  · exact stopsAtEnd_wildcard hg.of_append
  rcases cut_append spaced with ⟨others, named, rfl⟩ | ⟨front, rfl, announced⟩
  -- The keyword is one token: it is there or it is not.
  · have parts : ∀ c ∈ front ++ others, isNamePart c = true := by
      rw [← named]
      exact isNamePart_keyword keyword
    rcases between.of_front.of_behind.eq_nil parts with rfl | rfl
    · rw [List.append_nil]
      exact stopsAtEnd_wildcard hg
    · have stops := stopsAtEnd_keyword nothing hg ng keyword isSpacing_nil
      rw [List.append_nil] at stops named
      rwa [named] at stops
  rcases cut_append announced with ⟨others, rfl, -⟩ | ⟨front, rfl, apart⟩
  · exact stopsAtEnd_keyword nothing hg ng keyword hg'.of_append
  · have shorter : front.length < depth := by
      simp only [List.length_append] at enough
      omega
    exact stopsAtEnd_cutBounds hg ng keyword hg' ng' bounds ha cut apart
      between.of_behind.of_behind.of_behind shorter

end

mutual
/-- The front of a type is read up to its end or up to the separator in which it ends. -/
theorem DerivesType.cut {whole : List Char} {t : TypeRef} :
    DerivesType whole t → ∀ (depth : Nat) (cs after : List Char), whole = cs ++ after →
      BetweenTokens cs after → cs.length < depth →
      StopsAtEnd skipSpacing cs (readTypeWithin depth cs)
  | .plain hn hd, depth, cs, after, split, between, enough => by
    obtain ⟨depth, rfl⟩ := Nat.exists_eq_add_one.mpr (Nat.zero_lt_of_lt enough)
    rcases cut_append split with ⟨others, rfl, rfl⟩ | ⟨front, rfl, rfl⟩
    · exact stopsAtEnd_cutName hn between.of_front
    · exact stopsAtEnd_name hn hd
  | @DerivesType.generic name gap inner brackets gs n hn hg arguments hd, depth, cs, after, split,
      between, enough => by
    obtain ⟨depth, rfl⟩ := Nat.exists_eq_add_one.mpr (Nat.zero_lt_of_lt enough)
    rcases cut_cons split with ⟨others, opened, rfl⟩ | ⟨front, rfl, rfl⟩
    · rcases cut_cons opened with ⟨others, named, rfl⟩ | ⟨front, rfl, rfl⟩
      · rcases cut_append named with ⟨others, rfl, rfl⟩ | ⟨front, rfl, rfl⟩
        · exact stopsAtEnd_cutName hn between.of_front.of_front.of_front
        · exact stopsAtEnd_name_spacing hn hg.of_append
      · have shorter : front.length < depth := by
          simp only [List.length_append, List.length_cons] at enough
          omega
        exact stopsAtEnd_opened hn hg
          (arguments.cut depth front others rfl between.of_front.of_behind_cons shorter)
    · have height : TypeRef.heightArguments gs ≤ depth := by
        have le := arguments.heightArguments_le
        simp only [List.length_append, List.length_cons] at enough
        omega
      exact stopsAtEnd_closed hn hg (arguments.read depth front height) hd
theorem DerivesArguments.cut {whole : List Char} {gs : List Generic} :
    DerivesArguments whole gs → ∀ (depth : Nat) (cs after : List Char), whole = cs ++ after →
      BetweenTokens cs after → cs.length < depth →
      StopsAtEnd id cs (readList readComma? (readSpacedArgument (readTypeWithin depth)) cs)
  | .last argument, depth, cs, after, split, between, enough =>
    stopsAtEnd_lastArgument (argument.cut depth cs after split between enough)
  | @DerivesArguments.more first rest g gs argument others, depth, cs, after, split, between,
      enough => by
    rcases cut_cons split with ⟨behind, rfl, rfl⟩ | ⟨front, rfl, rfl⟩
    · exact stopsAtEnd_lastArgument
        (argument.cut depth cs behind rfl between.of_front enough)
    · simp only [List.length_append, List.length_cons] at enough
      have height : g.height ≤ depth := by
        have le := argument.height_le
        omega
      have read := argument.read depth (',' :: front) height
        (stopsAt_cons (by simp) (by decide) _) (skipSpacing_cons (by decide) _)
      have list := others.cut depth front after rfl between.of_behind_cons (by omega)
      refine stopsAtEnd_readList_more (fun _ _ => length_lt_of_readComma?)
        (fun _ _ _ => (sound_readSpacedArgument (sound_readTypeWithin depth)).length_le) read rfl
        list ?_ ?_
      · intro visible
        rw [List.append_cons, dangling_append _ visible]
      · intro spacing
        exact ⟨readSpacedArgument_spacing spacing depth,
          (dangling_separator first rfl spacing).symm⟩
theorem DerivesArgument.cut {whole : List Char} {g : Generic} :
    DerivesArgument whole g → ∀ (depth : Nat) (cs after : List Char), whole = cs ++ after →
      BetweenTokens cs after → cs.length < depth →
      StopsAtEnd id cs (readSpacedArgument (readTypeWithin depth) cs)
  | @DerivesArgument.type before body gap t hb type ha, depth, cs, after, split, between,
      enough => by
    rw [List.append_assoc] at split
    -- The cut is in the spacing in front of the type, in the type, or in the spacing behind it.
    rcases cut_append split with ⟨others, rfl, -⟩ | ⟨front, rfl, behind⟩
    · exact stopsAtEnd_spacing hb.of_append depth
    rw [List.length_append] at enough
    rcases cut_append behind with ⟨others, rfl, rfl⟩ | ⟨gap, rfl, rfl⟩
    · by_cases empty : front = []
      · rw [empty, List.append_nil]
        exact stopsAtEnd_spacing hb depth
      · obtain ⟨c, tail, rfl, start⟩ := exists_cons_of_cut type.exists_cons rfl empty
        refine stopsAtEnd_spaced hb rfl (isSpacing_of_isNameStart start) ?_
        rw [readArgument_of_start start]
        exact (type.cut depth _ others rfl between.of_front.of_behind (by omega)).map _
    · obtain ⟨c, tail, rfl, start⟩ := type.exists_cons
      have height : t.height ≤ depth := by
        have le := type.height_le
        rw [List.length_append] at enough
        omega
      refine stopsAtEnd_spaced hb rfl (isSpacing_of_isNameStart start) ?_
      rw [List.cons_append, readArgument_of_start start, ← List.cons_append,
        type.read depth gap height (stopsAt_spacing ha.of_append _)]
      exact stopsAtEnd_whole type.dangling ha.of_append _
  | .wildcard hb ha, depth, cs, after, split, between, enough => by
    rcases cut_cons split with ⟨others, rfl, -⟩ | ⟨front, rfl, rfl⟩
    · exact stopsAtEnd_spacing hb.of_append depth
    · exact stopsAtEnd_spaced hb rfl (by decide) (stopsAtEnd_wildcard ha.of_append)
  | .bounded hb hg ng keyword hg' ng' bounds ha, depth, cs, after, split, between, enough => by
    simp only [List.append_assoc, List.cons_append] at split
    rcases cut_cons split with ⟨others, rfl, -⟩ | ⟨front, rfl, behind⟩
    · exact stopsAtEnd_spacing hb.of_append depth
    · have shorter : front.length < depth := by
        simp only [List.length_append, List.length_cons] at enough
        omega
      have stops := stopsAtEnd_cutWildcard hg ng keyword hg' ng' bounds ha (bounds.cut depth) behind
        between.of_behind_cons shorter
      exact stopsAtEnd_spaced hb rfl (by decide) stops
theorem DerivesBounds.cut {whole : List Char} {ts : List TypeRef} :
    DerivesBounds whole ts → ∀ (depth : Nat) (cs after : List Char), whole = cs ++ after →
      BetweenTokens cs after → cs.length < depth →
      StopsAtEnd skipSpacing cs (readList readAmpersand? (readTypeWithin depth) cs)
  | .last type, depth, cs, after, split, between, enough =>
    stopsAtEnd_lastBound (type.cut depth cs after split between enough)
  | @DerivesBounds.more body before trailing rest t ts type hb ha others, depth, cs, after, split,
      between, enough => by
    simp only [List.append_assoc, List.cons_append] at split
    rcases cut_append split with ⟨behind, rfl, rfl⟩ | ⟨front, rfl, behind⟩
    · exact stopsAtEnd_lastBound (type.cut depth cs behind rfl between.of_front enough)
    rw [List.length_append] at enough
    have height : t.height ≤ depth := by
      have le := type.height_le
      omega
    rcases cut_cons behind with ⟨more, rfl, -⟩ | ⟨front, rfl, separated⟩
    · refine stopsAtEnd_lastBound ?_
      rw [type.read depth front height (stopsAt_spacing hb.of_append _)]
      exact stopsAtEnd_whole type.dangling hb.of_append _
    have read := type.read depth (before ++ '&' :: front) height
      (.append hb (stopsAt_cons (by simp) (by decide) _))
    by_cases spacing : IsSpacing front
    · exact stopsAtEnd_ampersand read hb spacing
    · rcases cut_append separated with ⟨more, rfl, -⟩ | ⟨front, rfl, rfl⟩
      · exact absurd ha.of_append spacing
      · have some : front ≠ [] := by
          rintro rfl
          exact spacing (by rwa [List.append_nil])
        have starts := exists_cons_of_cut others.exists_cons rfl some
        have cut := between.of_behind.of_behind_cons.of_behind
        simp only [List.length_append, List.length_cons] at enough
        exact stopsAtEnd_moreBounds read hb ha starts
          (others.cut depth front after rfl cut (by omega))
end

/-! ## Whole texts -/

theorem innermostAngle?_of_balanced {text : String} (h : Balanced text.toList) :
    innermostAngle? text = none := by
  rw [innermostAngle?, h]
  rfl

theorem balanced_dangling (cs : List Char) : Balanced (dangling cs) := by
  rcases dangling_cases cs with complete | ⟨front, c, gap, -, separator, hg, eq⟩
  · rw [complete]
    exact .nil
  · simp only [isSeparator, Bool.or_eq_true, beq_iff_eq] at separator
    rw [eq]
    rcases separator with (rfl | rfl) | rfl <;> exact hg.balanced.cons (by decide) (by decide)

theorem readType_failed_of_cut {whole front cs after : List Char} {t : TypeRef}
    (derived : DerivesType whole t) (split : whole = cs ++ after)
    (between : BetweenTokens cs after) (hf : IsSpacing front) (opened : ¬ Balanced (front ++ cs)) :
    ∃ failure, readType cs = .failed failure ∧ failure.remaining = dangling (front ++ cs) := by
  have stops := derived.cut (cs.length + 1) cs after split between (Nat.lt_succ_self _)
  have visible : ¬ IsSpacing cs := fun spacing => opened (hf.append spacing).balanced
  change StopsAtEnd skipSpacing cs (readType cs) at stops
  cases read : readType cs with
  | missing =>
    rw [read] at stops
    exact absurd stops visible
  | failed failure =>
    rw [read] at stops
    exact ⟨failure, rfl, Eq.trans stops (dangling_append front visible).symm⟩
  | done type rest =>
    rw [read] at stops
    obtain ⟨text, taken, derived⟩ := sound_readType _ _ _ read
    obtain ⟨gap, left, hg⟩ := exists_spacing rest
    rw [show skipSpacing rest = dangling cs from stops] at left
    have balanced : Balanced cs := by
      rw [taken, left]
      exact derived.balanced.append (hg.balanced.append (balanced_dangling cs))
    exact absurd (hf.balanced.append balanced) opened

theorem not_all_isBlank_of_opened {cs : List Char} (opened : ¬ Balanced cs) :
    cs.all isBlank = false := by
  rw [Bool.eq_false_iff]
  intro blank
  refine opened (.of_forall fun c mem => ?_)
  have isBlank := List.all_eq_true.mp blank c mem
  constructor
  · rintro rfl
    exact absurd isBlank (by decide)
  · rintro rfl
    exact absurd isBlank (by decide)

theorem exists_failure_of_cut {before after : String} {type : TypeRef}
    (accepted : parseType (before ++ after) = .ok type)
    (between : BetweenTokens before.toList after.toList)
    (opened : (innermostAngle? before).isSome) :
    ∃ failure : Failure, parseType before = .error ⟨[failure.diagnostic before.toList]⟩ ∧
      failure.remaining = dangling before.toList := by
  have unbalanced : ¬ Balanced before.toList := by
    intro balanced
    rw [innermostAngle?_of_balanced balanced] at opened
    cases opened
  obtain ⟨gap, body, trailing, whole, hg, derived, ht⟩ := exists_derivation_of_parseType accepted
  rw [String.toList_append] at whole
  rcases cut_append whole.symm with ⟨others, ahead, rest⟩ | ⟨front, all, rfl⟩
  · rcases cut_append ahead with ⟨others, rfl, -⟩ | ⟨front, taken, rfl⟩
    · exact absurd hg.of_append.balanced unbalanced
    have start : skipSpacing before.toList = front := by
      have some : front ≠ [] := by
        rintro rfl
        rw [taken, List.append_nil] at unbalanced
        exact unbalanced hg.balanced
      obtain ⟨c, tail, rfl, start⟩ := exists_cons_of_cut derived.exists_cons rfl some
      rw [taken, skipSpacing_append hg, skipSpacing_cons (isSpacing_of_isNameStart start)]
    have visible := not_all_isBlank_of_opened unbalanced
    rw [taken] at unbalanced
    rw [taken, rest] at between
    obtain ⟨failure, failed, ended⟩ :=
      readType_failed_of_cut derived rfl between.of_front.of_behind hg unbalanced
    refine ⟨failure, ?_, by rw [ended, taken]⟩
    simp only [parseType, parseWhole, visible, Bool.false_eq_true, if_false, start, failed]
  · rw [all] at unbalanced
    exact absurd ((hg.balanced.append derived.balanced).append ht.of_append.balanced) unbalanced

/-! ## Diagnoses -/

theorem Failure.diagnostic_at_end {failure : Failure} (ended : failure.remaining = [])
    (text : String) :
    (failure.diagnostic text.toList).code = some .incompleteInput ∧
      (failure.diagnostic text.toList).primarySpan? =
        some (.between text.utf8ByteSize text.utf8ByteSize) := by
  have position : positionOf text.toList [] = text.utf8ByteSize := by
    have size := utf8ByteSize_ofList text.toList
    rw [String.ofList_toList] at size
    rw [size]
    rfl
  unfold Failure.diagnostic
  rw [ended, position]
  exact ⟨rfl, rfl⟩

theorem Failure.diagnostic_at {failure : Failure} (taken : List Char) {rest : List Char} {c : Char}
    (left : failure.remaining = c :: rest) :
    (failure.diagnostic (taken ++ c :: rest)).code = some .unexpectedToken ∧
      ∃ span, (failure.diagnostic (taken ++ c :: rest)).primarySpan? = some span ∧
        span.Covers (String.ofList taken) (String.ofList [c]) := by
  unfold Failure.diagnostic
  rw [left, positionOf_append]
  exact ⟨rfl, _, rfl, Span.covers_between taken [c]⟩

/-- The text ends in the separator, with some text in front of it and spacing behind it. -/
structure EndsInSeparator (text front separator : String) : Prop where
  separator_mem : separator ∈ [",", "&", "."]
  behind : ∃ gap, text = front ++ separator ++ gap ∧ IsSpacing gap.toList

theorem EndsInSeparator.exists_char {text front separator : String}
    (ends : EndsInSeparator text front separator) :
    ∃ c gap, separator = String.ofList [c] ∧ text.toList = front.toList ++ c :: gap ∧
      dangling text.toList = c :: gap := by
  obtain ⟨separator_mem, gap, rfl, hg⟩ := ends
  have single : ∃ c, separator = String.ofList [c] ∧ isSeparator c = true := by
    simp only [List.mem_cons, List.not_mem_nil, or_false] at separator_mem
    rcases separator_mem with rfl | rfl | rfl
    · exact ⟨',', rfl, rfl⟩
    · exact ⟨'&', rfl, rfl⟩
    · exact ⟨'.', rfl, rfl⟩
  obtain ⟨c, rfl, isSeparator⟩ := single
  have whole : (front ++ String.ofList [c] ++ gap).toList = front.toList ++ c :: gap.toList := by
    simp
  refine ⟨c, gap.toList, rfl, whole, ?_⟩
  rw [whole, dangling_separator _ isSeparator hg]

theorem dangling_eq_nil {text : String}
    (complete : ¬ ∃ front separator, EndsInSeparator text front separator) :
    dangling text.toList = [] := by
  rcases dangling_cases text.toList with empty | ⟨front, c, gap, split, isSeparator, hg, -⟩
  · exact empty
  · refine absurd ⟨String.ofList front, String.ofList [c], ?_, String.ofList gap, ?_, ?_⟩ complete
    · simp only [TypeExpr.isSeparator, Bool.or_eq_true, beq_iff_eq] at isSeparator
      rcases isSeparator with (rfl | rfl) | rfl <;> decide
    · simp [← String.toList_inj, split]
    · rwa [String.toList_ofList]

/-- The front of a type expression, up to a place between two tokens in a list of arguments, is
rejected: for what is missing at its end if it does not end in a separator, and for the separator if
it does. -/
theorem parseType_of_cut {before after : String} {type : TypeRef}
    (accepted : parseType (before ++ after) = .ok type)
    (between : BetweenTokens before.toList after.toList)
    (opened : (innermostAngle? before).isSome) :
    ∃ diagnostic, parseType before = .error ⟨[diagnostic]⟩ ∧
      ((¬ ∃ front separator, EndsInSeparator before front separator) →
        diagnostic.code = some .incompleteInput ∧
        diagnostic.primarySpan? = some (.between before.utf8ByteSize before.utf8ByteSize)) ∧
      ∀ front separator, EndsInSeparator before front separator →
        diagnostic.code = some .unexpectedToken ∧
        ∃ span, diagnostic.primarySpan? = some span ∧ span.Covers front separator := by
  obtain ⟨failure, rejected, ended⟩ := exists_failure_of_cut accepted between opened
  refine ⟨_, rejected, ?_, ?_⟩
  · intro complete
    exact failure.diagnostic_at_end (ended.trans (dangling_eq_nil complete)) before
  · intro front separator ends
    obtain ⟨c, gap, rfl, split, eq⟩ := ends.exists_char
    have blamed := Failure.diagnostic_at front.toList (ended.trans eq)
    rwa [← split, String.ofList_toList] at blamed

theorem parseType_of_cut_bounds :
    ((∃ type, parseType ("Map<é, Set<? super" ++ " B>[]>") = .ok type) ∧
      BetweenTokens "Map<é, Set<? super".toList " B>[]>".toList ∧
      innermostAngle? "Map<é, Set<? super" = some 11 ∧
      ∃ diagnostic, parseType "Map<é, Set<? super" = .error ⟨[diagnostic]⟩ ∧
        diagnostic.code = some .incompleteInput ∧
        diagnostic.primarySpan? = some (.between 19 19)) ∧
    (∃ type, parseType ("Map<é, ? extends A & " ++ "B>") = .ok type) ∧
      BetweenTokens "Map<é, ? extends A & ".toList "B>".toList ∧
      innermostAngle? "Map<é, ? extends A & " = some 3 ∧
      ∃ diagnostic, parseType "Map<é, ? extends A & " = .error ⟨[diagnostic]⟩ ∧
        diagnostic.code = some .unexpectedToken ∧
        ∃ span, diagnostic.primarySpan? = some span ∧ span.Covers "Map<é, ? extends A " "&" := by
  constructor
  · have accepted : parseType ("Map<é, Set<? super" ++ " B>[]>") = .ok
        (.mk "Map" [.ofType (.mk "é" [] 0),
          .ofType (.mk "Set" [.wildcard .super [.mk "B" [] 0]] 1)] 0) := by decide +kernel
    have between : BetweenTokens "Map<é, Set<? super".toList " B>[]>".toList := by decide
    have opened : innermostAngle? "Map<é, Set<? super" = some 11 := by decide +kernel
    have complete : ¬ ∃ front separator, EndsInSeparator "Map<é, Set<? super" front separator := by
      rintro ⟨front, separator, ends⟩
      obtain ⟨c, gap, -, -, eq⟩ := ends.exists_char
      have none : dangling "Map<é, Set<? super".toList = [] := by decide
      cases none.symm.trans eq
    obtain ⟨diagnostic, rejected, missed, -⟩ := parseType_of_cut accepted between (by simp [opened])
    exact ⟨⟨_, accepted⟩, between, opened, diagnostic, rejected, missed complete⟩
  · have accepted : parseType ("Map<é, ? extends A & " ++ "B>") = .ok
        (.mk "Map" [.ofType (.mk "é" [] 0),
          .wildcard .extend [.mk "A" [] 0, .mk "B" [] 0]] 0) := by decide +kernel
    have between : BetweenTokens "Map<é, ? extends A & ".toList "B>".toList := by decide
    have opened : innermostAngle? "Map<é, ? extends A & " = some 3 := by decide +kernel
    have ends : EndsInSeparator "Map<é, ? extends A & " "Map<é, ? extends A " "&" :=
      ⟨by decide, " ", by decide, isSpacing_singleton_space⟩
    obtain ⟨diagnostic, rejected, -, blamed⟩ := parseType_of_cut accepted between (by simp [opened])
    exact ⟨⟨_, accepted⟩, between, opened, diagnostic, rejected, blamed _ _ ends⟩

theorem parseType_cut_behind_comma :
    parseType ("Map<K," ++ "V>") =
        .ok (.mk "Map" [.ofType (.mk "K" [] 0), .ofType (.mk "V" [] 0)] 0) ∧
      BetweenTokens "Map<K,".toList "V>".toList ∧ innermostAngle? "Map<K," = some 3 ∧
      ∃ diagnostic, parseType "Map<K," = .error ⟨[diagnostic]⟩ ∧
        diagnostic.code = some .unexpectedToken ∧
        diagnostic.primarySpan? = some (.between 5 6) ∧
        ¬ (diagnostic.code = some .incompleteInput ∧
          diagnostic.primarySpan? = some (.between 6 6)) := by
  refine ⟨by decide +kernel, by decide, by decide +kernel, ?_⟩
  refine ⟨Failure.diagnostic ⟨.listEnd "<K,".toList, ",".toList, false⟩ "Map<K,".toList, ?_⟩
  decide +kernel

end SourceModel.TypeExpr
