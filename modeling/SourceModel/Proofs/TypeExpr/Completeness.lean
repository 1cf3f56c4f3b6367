import SourceModel.Proofs.TypeExpr.Soundness

/-!
# What is derivable is read

The readers take the first alternative that fits and never go back on a separator or an opening
bracket. What makes them complete all the same is what may follow a derived text: behind a name no
character goes on with it, and behind a type the first character that is no spacing is a comma, an
ampersand or a closing angle bracket.
-/

namespace SourceModel.TypeExpr
open Text

/-! ## What may follow -/

/-- The first character behind any spacing is one of the stops, if there is one. -/
def StopsAt (stops rest : List Char) : Prop := ∀ c ∈ (skipSpacing rest).head?, c ∈ stops

def NameEnds (rest : List Char) : Prop := ∀ c ∈ rest.head?, isNamePart c = false ∧ c ≠ '.'

theorem StopsAt.mono {stops stops' rest : List Char} (h : StopsAt stops rest)
    (sub : stops ⊆ stops') : StopsAt stops' rest :=
  fun c mem => sub (h c mem)

theorem stopsAt_nil (stops : List Char) : StopsAt stops [] := by
  intro c mem
  cases mem

theorem stopsAt_cons {stops : List Char} {c : Char} (mem : c ∈ stops) (h : isSpacing c = false)
    (rest : List Char) : StopsAt stops (c :: rest) := by
  intro d hd
  rw [skipSpacing_cons h] at hd
  obtain rfl := Option.some.inj hd
  exact mem

theorem StopsAt.append {stops gap rest : List Char} (hg : IsSpacing gap)
    (h : StopsAt stops rest) : StopsAt stops (gap ++ rest) := by
  unfold StopsAt
  rwa [skipSpacing_append hg]

theorem StopsAt.skipSpacing_ne {stops rest : List Char} (h : StopsAt stops rest) {c : Char}
    (notMem : c ∉ stops) (tail : List Char) : skipSpacing rest ≠ c :: tail := by
  intro eq
  exact notMem (h c (by simp [eq]))

theorem StopsAt.head_cases {stops rest : List Char} (h : StopsAt stops rest) :
    ∀ c ∈ rest.head?, isSpacing c = true ∨ c ∈ stops := by
  intro c mem
  cases rest with
  | nil => cases mem
  | cons d tail =>
    obtain rfl := Option.some.inj mem
    cases hd : isSpacing d with
    | true => exact .inl rfl
    | false => exact .inr (h d (by simp [skipSpacing_cons hd]))

theorem StopsAt.not_isNamePart {stops rest : List Char} (h : StopsAt stops rest)
    (hs : (stops.all fun c => !isNamePart c) = true) : ∀ c ∈ rest.head?, isNamePart c = false := by
  intro c mem
  rcases h.head_cases c mem with spacing | stop
  · exact isNamePart_of_isSpacing spacing
  · simpa using List.all_eq_true.mp hs c stop

theorem StopsAt.nameEnds {stops rest : List Char} (h : StopsAt stops rest)
    (hs : (stops.all fun c => !isNamePart c && c != '.') = true) : NameEnds rest := by
  intro c mem
  rcases h.head_cases c mem with spacing | stop
  · refine ⟨isNamePart_of_isSpacing spacing, ?_⟩
    rintro rfl
    cases spacing
  · simpa using List.all_eq_true.mp hs c stop

/-! ## Names -/

theorem ne_dot_of_isNamePart {c : Char} (h : isNamePart c = true) : c ≠ '.' := by
  rintro rfl
  exact absurd h (by decide)

theorem readNameTail_cons {c : Char} (ne : c ≠ '.') (cs : List Char) :
    readNameTail (c :: cs) =
      if isNamePart c then (c :: (readNameTail cs).1, (readNameTail cs).2) else ([], c :: cs) := by
  simp [readNameTail, ne]

theorem readNameTail_append {parts : List Char} (h : ∀ d ∈ parts, isNamePart d = true)
    (rest : List Char) :
    readNameTail (parts ++ rest) = (parts ++ (readNameTail rest).1, (readNameTail rest).2) := by
  induction parts with
  | nil => rfl
  | cons d parts ih =>
    obtain ⟨hd, hp⟩ := List.forall_mem_cons.mp h
    rw [List.cons_append, readNameTail_cons (ne_dot_of_isNamePart hd), if_pos hd, ih hp,
      List.cons_append]

theorem NameEnds.readNameTail {rest : List Char} (h : NameEnds rest) :
    readNameTail rest = ([], rest) := by
  cases rest with
  | nil => rfl
  | cons c tail =>
    obtain ⟨part, ne⟩ := h c (by simp)
    simp [readNameTail_cons ne, part]

theorem readNameTail_dot {cs name rest : List Char} (h : readName? cs = some (name, rest)) :
    readNameTail ('.' :: cs) = ('.' :: name, rest) := by
  cases cs with
  | nil => cases h
  | cons c cs =>
    simp only [readName?] at h
    split at h
    · rename_i start
      obtain ⟨rfl, rfl⟩ := by simpa using h
      simp [readNameTail, start]
    · cases h

theorem IsName.readName?_append {name : List Char} (h : IsName name) (rest : List Char) :
    readName? (name ++ rest) = some (name ++ (readNameTail rest).1, (readNameTail rest).2) := by
  induction h with
  | identifier first =>
    obtain ⟨start, parts⟩ := first
    simp [TypeExpr.readName?, start, readNameTail_append parts]
  | qualified first others ih =>
    obtain ⟨start, parts⟩ := first
    simp [TypeExpr.readName?, start, readNameTail_append parts, readNameTail_dot ih]

theorem IsName.readName? {name : List Char} (h : IsName name) {rest : List Char}
    (ends : NameEnds rest) : readName? (name ++ rest) = some (name, rest) := by
  rw [h.readName?_append, ends.readNameTail, List.append_nil]

theorem IsName.exists_cons {name : List Char} (h : IsName name) :
    ∃ c tail, name = c :: tail ∧ isNameStart c = true := by
  cases h with
  | identifier first =>
    obtain ⟨start, parts⟩ := first
    exact ⟨_, _, rfl, start⟩
  | qualified first others =>
    obtain ⟨start, parts⟩ := first
    exact ⟨_, _, rfl, start⟩

theorem isSpacing_of_isNameStart {c : Char} (h : isNameStart c = true) : isSpacing c = false := by
  cases hc : isSpacing c with
  | false => rfl
  | true =>
    have part := isNamePart_of_isNameStart h
    rw [isNamePart_of_isSpacing hc] at part
    cases part

/-! ## Keywords -/

theorem readSpacing?_append {gap : List Char} (hg : IsSpacing gap) (ng : gap ≠ [])
    (rest : List Char) : readSpacing? (gap ++ rest) = some (skipSpacing rest) := by
  cases gap with
  | nil => exact absurd rfl ng
  | cons c gap =>
    obtain ⟨hc, hg⟩ := List.forall_mem_cons.mp hg
    simp only [List.cons_append, readSpacing?, hc, if_true]
    rw [skipSpacing_append hg]

theorem readKeyword?_append (keyword : BoundKeyword) {c : Char} (h : isNamePart c = false)
    (rest : List Char) :
    readKeyword? (keyword.name.toList ++ c :: rest) = some (keyword, c :: rest) := by
  cases keyword with
  | extend => simp [readKeyword?, readWord?, BoundKeyword.name, List.isPrefixOf?, h]
  | super => simp [readKeyword?, readWord?, BoundKeyword.name, List.isPrefixOf?, h]

theorem skipSpacing_keyword (keyword : BoundKeyword) (rest : List Char) :
    skipSpacing (keyword.name.toList ++ rest) = keyword.name.toList ++ rest := by
  cases keyword <;> exact skipSpacing_cons (by decide) _

theorem StopsAt.readBoundKeyword? {rest : List Char} (h : StopsAt [',', '>'] rest) :
    readBoundKeyword? rest = none := by
  have none : readKeyword? (skipSpacing rest) = none := by
    cases eq : skipSpacing rest with
    | nil => rfl
    | cons c tail =>
      have mem := h c (by simp [eq])
      rcases List.mem_cons.mp mem with rfl | mem
      · rfl
      · obtain rfl := List.mem_singleton.mp mem
        rfl
  cases rest with
  | nil => rfl
  | cons c tail =>
    simp only [TypeExpr.readBoundKeyword?, readSpacing?]
    split
    · rename_i hc
      have skipped : skipSpacing ([c] ++ tail) = skipSpacing tail :=
        skipSpacing_append (by simpa [IsSpacing] using hc) tail
      rw [List.singleton_append] at skipped
      rwa [skipped] at none
    · rfl

/-! ## Lists -/

section Lists

variable {α : Type} {separator : List Char → Option (List Char)} {item : Reader α}

/-- The list reader takes these values off the front, whatever its bound on their number. -/
def ReadsList (separator : List Char → Option (List Char)) (item : Reader α) (cs : List Char)
    (values : List α) (rest : List Char) : Prop :=
  ∃ value others behind, values = value :: others ∧ item cs = .done value behind ∧
    behind.length ≤ cs.length ∧
    ∀ count, behind.length ≤ count → readMore separator item count behind = .done others rest

theorem ReadsList.last {cs rest : List Char} {value : α} (read : item cs = .done value rest)
    (le : rest.length ≤ cs.length) (ends : separator rest = none) :
    ReadsList separator item cs [value] rest := by
  refine ⟨value, [], rest, rfl, read, le, ?_⟩
  intro count _
  cases count with
  | zero => rfl
  | succ count => simp [readMore, ends]

theorem ReadsList.more {cs behind next rest : List Char} {value : α} {values : List α}
    (read : item cs = .done value behind) (le : behind.length ≤ cs.length)
    (separated : separator behind = some next) (lt : next.length < behind.length)
    (others : ReadsList separator item next values rest) :
    ReadsList separator item cs (value :: values) rest := by
  obtain ⟨second, more, remaining, rfl, read', le', all⟩ := others
  refine ⟨value, second :: more, behind, rfl, read, le, ?_⟩
  intro count enough
  cases count with
  | zero => omega
  | succ count =>
    have tail := all count (by omega)
    simp [readMore, separated, read', tail, Reading.map]

theorem ReadsList.readList {cs rest : List Char} {values : List α}
    (h : ReadsList separator item cs values rest) :
    readList separator item cs = .done values rest := by
  obtain ⟨value, others, behind, rfl, read, -, all⟩ := h
  simp [TypeExpr.readList, read, Reading.andThen, all behind.length (Nat.le_refl _), Reading.map]

end Lists

/-! ## Brackets -/

theorem IsDimensions.le_length {cs : List Char} {n : Nat} (h : IsDimensions cs n) :
    n ≤ cs.length := by
  induction h with
  | none => exact Nat.le_refl _
  | pair _ _ _ ih =>
    simp only [List.length_append, List.length_cons]
    omega

theorem readDimensions_pair {before within : List Char} (hb : IsSpacing before)
    (hw : IsSpacing within) (count : Nat) (rest : List Char) :
    readDimensions (count + 1) (before ++ '[' :: (within ++ ']' :: rest)) =
      (readDimensions count rest).map (· + 1) := by
  have opened : skipSpacing (before ++ '[' :: (within ++ ']' :: rest)) =
      '[' :: (within ++ ']' :: rest) := by
    rw [skipSpacing_append hb]
    exact skipSpacing_cons (by decide) _
  have closed : skipSpacing (within ++ ']' :: rest) = ']' :: rest := by
    rw [skipSpacing_append hw]
    exact skipSpacing_cons (by decide) _
  simp only [readDimensions, opened, closed]

theorem IsDimensions.readDimensions {cs : List Char} {n : Nat} (h : IsDimensions cs n)
    {count : Nat} (enough : n ≤ count) {rest : List Char} (stops : StopsAt [',', '>', '&'] rest) :
    readDimensions count (cs ++ rest) = .done n rest := by
  induction h generalizing count with
  | none =>
    cases count with
    | zero => rfl
    | succ count =>
      simp only [TypeExpr.readDimensions, List.nil_append]
      split
      · rename_i tail skipped
        exact absurd skipped (stops.skipSpacing_ne (by decide) tail)
      · rfl
  | pair hb hw _ ih =>
    cases count with
    | zero => omega
    | succ count =>
      simp only [List.append_assoc, List.cons_append]
      rw [readDimensions_pair hb hw, ih (by omega)]
      rfl

theorem IsDimensions.stopsAt {cs : List Char} {n : Nat} (h : IsDimensions cs n)
    {rest : List Char} (stops : StopsAt [',', '>', '&'] rest) :
    StopsAt [',', '>', '&', '['] (cs ++ rest) := by
  cases h with
  | none => exact stops.mono (by simp)
  | pair hb hw others =>
    simp only [List.append_assoc]
    exact .append hb (stopsAt_cons (by simp) (by decide) _)

/-! ## Types -/

theorem DerivesType.exists_cons {cs : List Char} {t : TypeRef} (h : DerivesType cs t) :
    ∃ c tail, cs = c :: tail ∧ isNameStart c = true := by
  cases h with
  | plain hn hd =>
    obtain ⟨c, tail, rfl, start⟩ := hn.exists_cons
    exact ⟨c, _, rfl, start⟩
  | generic hn hg arguments hd =>
    obtain ⟨c, tail, rfl, start⟩ := hn.exists_cons
    exact ⟨c, _, rfl, start⟩

theorem DerivesType.skipSpacing {cs : List Char} {t : TypeRef} (h : DerivesType cs t)
    (rest : List Char) : skipSpacing (cs ++ rest) = cs ++ rest := by
  obtain ⟨c, tail, rfl, start⟩ := h.exists_cons
  exact skipSpacing_cons (isSpacing_of_isNameStart start) _

theorem DerivesBounds.skipSpacing {cs : List Char} {ts : List TypeRef} (h : DerivesBounds cs ts)
    (rest : List Char) : skipSpacing (cs ++ rest) = cs ++ rest := by
  cases h with
  | last type => exact type.skipSpacing rest
  | more type hb ha others =>
    simp only [List.append_assoc]
    exact type.skipSpacing _

theorem DerivesType.readWildcard {cs : List Char} {t : TypeRef} (h : DerivesType cs t)
    (type : Reader TypeRef) (rest : List Char) : readWildcard type (cs ++ rest) = .missing := by
  obtain ⟨c, tail, rfl, start⟩ := h.exists_cons
  have ne : c ≠ '?' := by
    rintro rfl
    exact absurd start (by decide)
  simp [TypeExpr.readWildcard, ne]

theorem StopsAt.readArguments {rest : List Char} (h : StopsAt [',', '>', '&', '['] rest)
    (type : Reader TypeRef) : readArguments type rest = .missing := by
  unfold TypeExpr.readArguments
  split
  · rename_i tail skipped
    exact absurd skipped (h.skipSpacing_ne (by decide) tail)
  · rfl

theorem ReadsList.readArguments {type : Reader TypeRef} {gap inner rest : List Char}
    {gs : List Generic}
    (list : ReadsList readComma? (readSpacedArgument type) (inner ++ '>' :: rest) gs ('>' :: rest))
    (hg : IsSpacing gap) :
    readArguments type (gap ++ '<' :: (inner ++ '>' :: rest)) = .done gs rest := by
  have opened : skipSpacing (gap ++ '<' :: (inner ++ '>' :: rest)) =
      '<' :: (inner ++ '>' :: rest) := by
    rw [skipSpacing_append hg]
    exact skipSpacing_cons (by decide) _
  simp [TypeExpr.readArguments, opened, list.readList, Reading.orFail, Reading.andThen]

theorem readTypeWith_eq {type : Reader TypeRef} {name brackets behind rest : List Char}
    {gs : List Generic} {n : Nat} (hn : IsName name) (ends : NameEnds behind)
    (arguments : (readArguments type behind).orDefault [] behind = .done gs (brackets ++ rest))
    (hd : IsDimensions brackets n) (stops : StopsAt [',', '>', '&'] rest) :
    readTypeWith type (name ++ behind) = .done (.mk (String.ofList name) gs n) rest := by
  have enough : n ≤ (brackets ++ rest).length := by
    have le := hd.le_length
    simp only [List.length_append]
    omega
  simp only [readTypeWith, hn.readName? ends, arguments, Reading.andThen,
    hd.readDimensions enough stops, Reading.map]

theorem readBoundKeyword?_append {gap gap' : List Char} (hg : IsSpacing gap) (ng : gap ≠ [])
    (keyword : BoundKeyword) (hg' : IsSpacing gap') (ng' : gap' ≠ []) (rest : List Char) :
    readBoundKeyword? (gap ++ (keyword.name.toList ++ (gap' ++ rest))) =
      some (keyword, gap' ++ rest) := by
  cases gap' with
  | nil => exact absurd rfl ng'
  | cons c gap' =>
    have part := isNamePart_of_isSpacing (hg' c (by simp))
    simp only [readBoundKeyword?, readSpacing?_append hg ng, skipSpacing_keyword, Option.bind_some]
    exact readKeyword?_append keyword part (gap' ++ rest)

theorem readBounds_append {type : Reader TypeRef} {gap cs : List Char} (hg : IsSpacing gap)
    (ng : gap ≠ []) (skipped : skipSpacing cs = cs) :
    readBounds type (gap ++ cs) =
      ((readList readAmpersand? type cs).orFail ⟨.typeName, cs, true⟩).amongBounds := by
  simp only [readBounds, readSpacing?_append hg ng, skipped]

theorem ReadsList.readBounds {type : Reader TypeRef} {gap cs rest : List Char} {ts : List TypeRef}
    (bounds : ReadsList readAmpersand? type cs ts rest) (hg : IsSpacing gap) (ng : gap ≠ [])
    (skipped : skipSpacing cs = cs) : readBounds type (gap ++ cs) = .done ts rest := by
  rw [readBounds_append hg ng skipped, bounds.readList]
  rfl

theorem readWildcard_bounded {type : Reader TypeRef} {gap gap' cs rest : List Char}
    {ts : List TypeRef} (hg : IsSpacing gap) (ng : gap ≠ []) (keyword : BoundKeyword)
    (hg' : IsSpacing gap') (ng' : gap' ≠ []) (skipped : skipSpacing cs = cs)
    (bounds : ReadsList readAmpersand? type cs ts rest) :
    readWildcard type ('?' :: gap ++ keyword.name.toList ++ gap' ++ cs) =
      .done (.wildcard keyword ts) rest := by
  have announced := readBoundKeyword?_append hg ng keyword hg' ng' cs
  have read := bounds.readBounds hg' ng' skipped
  simp only [List.cons_append, List.append_assoc, TypeExpr.readWildcard, announced, read,
    Reading.map]

theorem ReadsList.lastBound {type : Reader TypeRef} {cs rest : List Char} {t : TypeRef}
    (read : type (cs ++ rest) = .done t rest) (stops : StopsAt [',', '>'] rest) :
    ReadsList readAmpersand? type (cs ++ rest) [t] rest := by
  refine .last read (by simp) ?_
  unfold readAmpersand?
  split
  · rename_i tail skipped
    exact absurd skipped (stops.skipSpacing_ne (by decide) tail)
  · rfl

theorem readAmpersand?_append {before after rest : List Char} (hb : IsSpacing before)
    (ha : IsSpacing after) (skipped : skipSpacing rest = rest) :
    readAmpersand? (before ++ '&' :: (after ++ rest)) = some rest := by
  have marked : skipSpacing ('&' :: (after ++ rest)) = '&' :: (after ++ rest) :=
    skipSpacing_cons (by decide) _
  simp only [readAmpersand?, skipSpacing_append hb, marked, skipSpacing_append ha, skipped]

theorem ReadsList.moreBounds {type : Reader TypeRef} {cs before after others rest : List Char}
    {t : TypeRef} {ts : List TypeRef}
    (read : type (cs ++ (before ++ '&' :: (after ++ others))) =
      .done t (before ++ '&' :: (after ++ others)))
    (hb : IsSpacing before) (ha : IsSpacing after) (skipped : skipSpacing others = others)
    (list : ReadsList readAmpersand? type others ts rest) :
    ReadsList readAmpersand? type (cs ++ (before ++ '&' :: (after ++ others))) (t :: ts) rest :=
  .more read (by simp) (readAmpersand?_append hb ha skipped) (by simp; omega) list

theorem readSpacedArgument_eq {type : Reader TypeRef} {cs after rest : List Char} {g : Generic}
    (read : readArgument type (skipSpacing cs) = .done g (after ++ rest)) (ha : IsSpacing after)
    (skipped : skipSpacing rest = rest) : readSpacedArgument type cs = .done g rest := by
  simp only [readSpacedArgument, read, Reading.andThen, skipSpacing_append ha, skipped]

mutual
theorem DerivesType.read {cs : List Char} {t : TypeRef} :
    DerivesType cs t → ∀ (depth : Nat) (rest : List Char), t.height ≤ depth →
      StopsAt [',', '>', '&'] rest → readTypeWithin depth (cs ++ rest) = .done t rest
  | .plain hn hd, depth, rest, enough, stops => by
    cases depth with
    | zero => simp [TypeRef.height] at enough
    | succ depth =>
      rw [List.append_assoc]
      have behind := hd.stopsAt stops
      have ends := behind.nameEnds (by decide)
      refine readTypeWith_eq hn ends ?_ hd stops
      rw [behind.readArguments]
      rfl
  | @DerivesType.generic name gap inner brackets gs n hn hg arguments hd, depth, rest, enough,
      stops => by
    cases depth with
    | zero => simp [TypeRef.height] at enough
    | succ depth =>
      have list := arguments.read depth (brackets ++ rest) (by simpa [TypeRef.height] using enough)
      have opened : StopsAt ['<'] (gap ++ '<' :: (inner ++ '>' :: (brackets ++ rest))) :=
        .append hg (stopsAt_cons (by simp) (by decide) _)
      have ends := opened.nameEnds (by decide)
      simp only [List.append_assoc, List.cons_append]
      refine readTypeWith_eq hn ends ?_ hd stops
      rw [list.readArguments hg]
      rfl
theorem DerivesArguments.read {cs : List Char} {gs : List Generic} :
    DerivesArguments cs gs → ∀ (depth : Nat) (rest : List Char),
      TypeRef.heightArguments gs ≤ depth →
      ReadsList readComma? (readSpacedArgument (readTypeWithin depth)) (cs ++ '>' :: rest) gs
        ('>' :: rest)
  | .last argument, depth, rest, enough => by
    have read := argument.read depth ('>' :: rest)
      (by simpa [TypeRef.heightArguments] using enough)
      (stopsAt_cons (by simp) (by decide) _) (skipSpacing_cons (by decide) _)
    exact .last read (by simp) rfl
  | @DerivesArguments.more cs others g gs argument more, depth, rest, enough => by
    simp only [TypeRef.heightArguments, Nat.max_le] at enough
    have read := argument.read depth (',' :: (others ++ '>' :: rest)) enough.1
      (stopsAt_cons (by simp) (by decide) _) (skipSpacing_cons (by decide) _)
    have list := more.read depth rest enough.2
    rw [List.append_assoc]
    exact .more read (by simp) rfl (by simp) list
theorem DerivesArgument.read {cs : List Char} {g : Generic} :
    DerivesArgument cs g → ∀ (depth : Nat) (rest : List Char), g.height ≤ depth →
      StopsAt [',', '>'] rest → skipSpacing rest = rest →
      readSpacedArgument (readTypeWithin depth) (cs ++ rest) = .done g rest
  | @DerivesArgument.type before cs after t hb type ha, depth, rest, enough, stops, skipped => by
    have le : Generic.heightBounds [t] ≤ depth := Nat.le_trans (Nat.le_succ _) enough
    have read := type.read depth (after ++ rest) (by simpa [Generic.heightBounds] using le)
      (.append ha (stops.mono (by simp)))
    have start : Text.skipSpacing (before ++ cs ++ after ++ rest) = cs ++ (after ++ rest) := by
      rw [List.append_assoc, List.append_assoc, skipSpacing_append hb, type.skipSpacing]
    refine readSpacedArgument_eq ?_ ha skipped
    simp only [start, readArgument, type.readWildcard, read, Reading.map]
  | @DerivesArgument.wildcard before after hb ha, depth, rest, enough, stops, skipped => by
    have start : Text.skipSpacing (before ++ '?' :: after ++ rest) = '?' :: (after ++ rest) := by
      rw [List.append_assoc, skipSpacing_append hb]
      exact skipSpacing_cons (by decide) _
    -- A keyword would have to start at one of the stops.
    have unbounded := (stops.append ha).readBoundKeyword?
    refine readSpacedArgument_eq ?_ ha skipped
    simp only [start, readArgument, readWildcard, unbounded]
  | @DerivesArgument.bounded before gap gap' cs after ts hb hg ng keyword hg' ng' bounds ha,
      depth, rest, enough, stops, skipped => by
    have le : Generic.heightBounds ts ≤ depth := Nat.le_trans (Nat.le_succ _) enough
    have list := bounds.read depth (after ++ rest) le (stops.append ha)
    have start : Text.skipSpacing
        (before ++ '?' :: gap ++ keyword.name.toList ++ gap' ++ cs ++ after ++ rest) =
        '?' :: gap ++ keyword.name.toList ++ gap' ++ (cs ++ (after ++ rest)) := by
      simp only [List.append_assoc, skipSpacing_append hb]
      exact skipSpacing_cons (by decide) _
    have read := readWildcard_bounded hg ng keyword hg' ng' (bounds.skipSpacing _) list
    refine readSpacedArgument_eq ?_ ha skipped
    simp only [start, readArgument, read]
theorem DerivesBounds.read {cs : List Char} {ts : List TypeRef} :
    DerivesBounds cs ts → ∀ (depth : Nat) (rest : List Char), Generic.heightBounds ts ≤ depth →
      StopsAt [',', '>'] rest →
      ReadsList readAmpersand? (readTypeWithin depth) (cs ++ rest) ts rest
  | .last type, depth, rest, enough, stops => by
    have read := type.read depth rest (by simpa [Generic.heightBounds] using enough)
      (stops.mono (by simp))
    exact .lastBound read stops
  | @DerivesBounds.more cs before after others t ts type hb ha more, depth, rest, enough,
      stops => by
    simp only [Generic.heightBounds, Nat.max_le] at enough
    have read := type.read depth (before ++ '&' :: (after ++ (others ++ rest))) enough.1
      (.append hb (stopsAt_cons (by simp) (by decide) _))
    have list := more.read depth rest enough.2 stops
    simp only [List.append_assoc, List.cons_append]
    exact .moreBounds read hb ha (more.skipSpacing rest) list
end

/-! ## Depth -/

mutual
/-- A type never nests deeper than its text is long, so the reader's bound is never met. -/
theorem DerivesType.height_le {cs : List Char} {t : TypeRef} :
    DerivesType cs t → t.height ≤ cs.length
  | .plain hn hd => by
    obtain ⟨c, tail, rfl, -⟩ := hn.exists_cons
    simp [TypeRef.height, TypeRef.heightArguments]
  | .generic hn hg arguments hd => by
    have le := arguments.heightArguments_le
    simp only [TypeRef.height, List.length_append, List.length_cons]
    omega
theorem DerivesArguments.heightArguments_le {cs : List Char} {gs : List Generic} :
    DerivesArguments cs gs → TypeRef.heightArguments gs ≤ cs.length + 1
  | .last argument => by
    have le := argument.height_le
    simpa [TypeRef.heightArguments] using le
  | .more argument others => by
    have le := argument.height_le
    have le' := others.heightArguments_le
    simp only [TypeRef.heightArguments, List.length_append, List.length_cons]
    omega
theorem DerivesArgument.height_le {cs : List Char} {g : Generic} :
    DerivesArgument cs g → g.height ≤ cs.length + 1
  | .type hb type ha => by
    have le := type.height_le
    simp only [Generic.ofType, Generic.height, Generic.heightBounds, List.length_append]
    omega
  | .wildcard hb ha => by
    simp [Generic.wildcard, Generic.height, Generic.heightBounds]
  | .bounded hb hg ng keyword hg' ng' bounds ha => by
    have le := bounds.heightBounds_le
    simp only [Generic.wildcard, Generic.height, List.length_append]
    omega
theorem DerivesBounds.heightBounds_le {cs : List Char} {ts : List TypeRef} :
    DerivesBounds cs ts → Generic.heightBounds ts ≤ cs.length
  | .last type => by
    simpa [Generic.heightBounds] using type.height_le
  | .more type hb ha others => by
    have le := type.height_le
    have le' := others.heightBounds_le
    simp only [Generic.heightBounds, List.length_append, List.length_cons]
    omega
end

theorem DerivesType.readType {cs rest : List Char} {t : TypeRef} (h : DerivesType cs t)
    (stops : StopsAt [',', '>', '&'] rest) : readType (cs ++ rest) = .done t rest := by
  refine h.read _ rest ?_ stops
  have le := h.height_le
  simp only [List.length_append]
  omega

theorem DerivesType.unique {cs : List Char} {s t : TypeRef} (hs : DerivesType cs s)
    (ht : DerivesType cs t) : s = t := by
  have first := hs.readType (stopsAt_nil _)
  have second := ht.readType (stopsAt_nil _)
  rw [first] at second
  exact (Reading.done.inj second).1

/-! ## Whole texts -/

theorem Ranges.not_contains {ranges others : Ranges}
    (apart : ∀ r ∈ ranges, ∀ o ∈ others, r.2 < o.1 ∨ o.2 < r.1) {point : Nat}
    (h : ranges.contains point = true) : others.contains point = false := by
  simp only [Ranges.contains, List.any_eq_true, Bool.and_eq_true, decide_eq_true_eq] at h
  obtain ⟨r, hr, low, high⟩ := h
  simp only [Ranges.contains, List.any_eq_false, Bool.and_eq_true, decide_eq_true_eq]
  rintro o ho ⟨low', high'⟩
  have := apart r hr o ho
  omega

theorem contains_of_isAlpha {c : Char} (h : c.isAlpha = true) :
    Ranges.contains [(65, 90), (97, 122)] c.toNat = true := by
  have cased : c.isUpper = true ∨ c.isLower = true := (Bool.or_eq_true _ _).mp h
  have upper : c.isUpper = decide (65 ≤ c.toNat ∧ c.toNat ≤ 90) := rfl
  have lower : c.isLower = (decide (97 ≤ c.toNat) && decide (c.toNat ≤ 122)) := rfl
  simpa [Ranges.contains, upper, lower] using cased

theorem isBlank_of_isAlphabetic {c : Char} (h : isAlphabetic c = true) : isBlank c = false := by
  unfold isAlphabetic at h
  split at h
  · exact Ranges.not_contains (by decide) (contains_of_isAlpha h)
  -- The tables of letters and of white space have no range in common.
  · exact Ranges.not_contains (by decide +kernel) h

theorem isBlank_of_isNameStart {c : Char} (h : isNameStart c = true) : isBlank c = false := by
  simp only [isNameStart, Bool.or_eq_true, beq_iff_eq] at h
  rcases h with (h | rfl) | rfl
  · exact isBlank_of_isAlphabetic h
  · decide
  · decide

theorem parseWhole_eq_ok_iff {α : Type} {what : String} {reader : Reader α} {text : String}
    {value : α} :
    parseWhole what reader text = .ok value ↔
      text.toList.all isBlank = false ∧
        ∃ rest, reader (skipSpacing text.toList) = .done value rest ∧ skipSpacing rest = [] := by
  simp only [parseWhole]
  cases blank : text.toList.all isBlank with
  | true => simp
  | false =>
    simp only [Bool.false_eq_true, if_false, true_and]
    cases read : reader (skipSpacing text.toList) with
    | done a rest =>
      cases skipped : skipSpacing rest with
      | nil => simp [skipped]
      | cons c tail => simp +contextual [skipped]
    | missing => simp
    | failed failure => simp

theorem exists_derivation_of_parseType {text : String} {type : TypeRef}
    (parsed : parseType text = .ok type) :
    ∃ before body after, text.toList = before ++ body ++ after ∧ IsSpacing before ∧
      DerivesType body type ∧ IsSpacing after := by
  obtain ⟨-, rest, read, skipped⟩ := parseWhole_eq_ok_iff.mp parsed
  obtain ⟨body, eq, derived⟩ := sound_readType _ _ _ read
  obtain ⟨before, eq', hb⟩ := exists_spacing text.toList
  obtain ⟨after, eq'', ha⟩ := exists_spacing rest
  refine ⟨before, body, after, ?_, hb, derived, ha⟩
  rw [skipped, List.append_nil] at eq''
  rw [List.append_assoc, ← eq'', ← eq, ← eq']

theorem parseType_of_derives {text : String} {before body after : List Char} {type : TypeRef}
    (eq : text.toList = before ++ body ++ after) (hb : IsSpacing before)
    (derived : DerivesType body type) (ha : IsSpacing after) : parseType text = .ok type := by
  have start : skipSpacing text.toList = body ++ after := by
    rw [eq, List.append_assoc, skipSpacing_append hb, derived.skipSpacing]
  have stops : StopsAt [',', '>', '&'] after := by
    rw [← List.append_nil after]
    exact (stopsAt_nil _).append ha
  refine parseWhole_eq_ok_iff.mpr ⟨?_, after, ?_, skipSpacing_eq_nil_of_isSpacing ha⟩
  · obtain ⟨c, tail, rfl, hc⟩ := derived.exists_cons
    simp [eq, isBlank_of_isNameStart hc]
  · rw [start]
    exact derived.readType stops

/-- Reading takes exactly the texts that the grammar derives, with spacing around them. -/
theorem parseType_eq_ok_iff (text : String) (type : TypeRef) :
    parseType text = .ok type ↔
      ∃ before body after, text.toList = before ++ body ++ after ∧ IsSpacing before ∧
        DerivesType body type ∧ IsSpacing after := by
  constructor
  · exact exists_derivation_of_parseType
  · rintro ⟨before, body, after, eq, hb, derived, ha⟩
    exact parseType_of_derives eq hb derived ha

end SourceModel.TypeExpr
