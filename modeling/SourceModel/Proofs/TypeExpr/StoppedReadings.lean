import SourceModel.Proofs.TypeExpr.Separators

/-!
# Readings that stop at the end of a text

A list takes a comma or an ampersand, and a name takes a dot, only together with what stands behind
it. A text that stops too early is therefore read up to its end or up to the separator in which it
ends (`StopsAtEnd`), and so for each reader if it is so for the readers that it calls.
-/

namespace SourceModel.TypeExpr
open Text

/-! ## Reading a text that stops -/

/-- Reading takes the text but for a separator at its end and for what it trims off, or it fails
there; if nothing was to be read, then the text is spacing. -/
def StopsAtEnd {α : Type} (trim : List Char → List Char) (cs : List Char) : Reading α → Prop
  | .done _ rest => trim rest = dangling cs
  | .missing => IsSpacing cs
  | .failed failure => failure.remaining = dangling cs

namespace StopsAtEnd

variable {α β : Type} {trim : List Char → List Char} {cs : List Char} {reading : Reading α}

theorem map (stops : StopsAtEnd trim cs reading) (f : α → β) :
    StopsAtEnd trim cs (reading.map f) := by
  cases reading <;> exact stops

theorem amongBounds (stops : StopsAtEnd trim cs reading) :
    StopsAtEnd trim cs reading.amongBounds := by
  cases reading <;> exact stops

theorem orFail (stops : StopsAtEnd trim cs reading) (visible : ¬ IsSpacing cs)
    (failure : Failure) : StopsAtEnd trim cs (reading.orFail failure) := by
  cases reading with
  | missing => exact absurd stops visible
  | done a rest => exact stops
  | failed failure => exact stops

theorem append (stops : StopsAtEnd trim cs reading) (visible : ¬ IsSpacing cs)
    (front : List Char) : StopsAtEnd trim (front ++ cs) reading := by
  have same := dangling_append front visible
  cases reading with
  | missing => exact absurd stops visible
  | done a rest => exact Eq.trans stops same.symm
  | failed failure => exact Eq.trans stops same.symm

end StopsAtEnd

theorem readDimensions_spacing {gap : List Char} (hg : IsSpacing gap) (count : Nat) :
    readDimensions count gap = .done 0 gap := by
  cases count with
  | zero => rfl
  | succ count => simp only [readDimensions, skipSpacing_eq_nil_of_isSpacing hg]

theorem IsDimensions.cut {brackets cs after : List Char} {n : Nat} (h : IsDimensions brackets n)
    (whole : brackets = cs ++ after) {count : Nat} (enough : cs.length ≤ count) :
    (∃ m rest, TypeExpr.readDimensions count cs = .done m rest ∧ skipSpacing rest = []) ∨
      ∃ failure, TypeExpr.readDimensions count cs = .failed failure ∧ failure.remaining = [] := by
  induction h generalizing cs count with
  | none =>
    obtain ⟨rfl, rfl⟩ := List.append_eq_nil_iff.mp whole.symm
    exact .inl ⟨0, [], readDimensions_spacing isSpacing_nil count, rfl⟩
  | @pair before within others n hb hw _ ih =>
    rw [List.append_assoc, List.cons_append] at whole
    rcases cut_cons whole with ⟨gap, rfl, -⟩ | ⟨front, rfl, split⟩
    · exact .inl ⟨0, cs, readDimensions_spacing hb.of_append count,
        skipSpacing_eq_nil_of_isSpacing hb.of_append⟩
    · rw [List.length_append, List.length_cons] at enough
      obtain ⟨count, rfl⟩ := Nat.exists_eq_add_one.mpr (show 0 < count by omega)
      rcases cut_cons split with ⟨gap, rfl, -⟩ | ⟨front, rfl, rfl⟩
      -- An opening bracket commits the reader: what is missing behind it is a failure.
      · have opened : skipSpacing (before ++ '[' :: front) = '[' :: front := by
          rw [skipSpacing_append hb]
          exact skipSpacing_cons (by decide) _
        have skipped := skipSpacing_eq_nil_of_isSpacing hw.of_append
        refine .inr ⟨⟨.closingBracket, [], false⟩, ?_, rfl⟩
        simp only [TypeExpr.readDimensions, opened, skipped]
      · rw [readDimensions_pair hb hw]
        rw [List.length_append, List.length_cons] at enough
        rcases ih rfl (show front.length ≤ count by omega) with ⟨m, rest, read, skipped⟩ | failed
        · rw [read]
          exact .inl ⟨m + 1, rest, rfl, skipped⟩
        · obtain ⟨failure, failed, ended⟩ := failed
          rw [failed]
          exact .inr ⟨failure, rfl, ended⟩

/-! ## Lists -/

section Lists

variable {α : Type} {separator : List Char → Option (List Char)} {item : Reader α}
  {trim : List Char → List Char}

theorem readMore_ends (misses : ∀ gap, IsSpacing gap → item gap = .missing) {rest : List Char}
    (ends : ∀ next, separator rest = some next → IsSpacing next) (count : Nat) :
    readMore separator item count rest = .done [] rest := by
  cases count with
  | zero => rfl
  | succ count =>
    cases separated : separator rest with
    | none => simp only [readMore, separated]
    | some next => simp only [readMore, separated, misses next (ends next separated)]

theorem readMore_ne_missing (count : Nat) (cs : List Char) :
    readMore separator item count cs ≠ .missing := by
  induction count generalizing cs with
  | zero => simp [readMore]
  | succ count ih =>
    simp only [readMore]
    split
    · simp
    · split
      · simp
      · simp
      · exact fun missing => ih _ (Reading.map_eq_missing.mp missing)

theorem readMore_of_none {cs : List Char} (none : separator cs = none) (count : Nat) :
    readMore separator item count cs = .done [] cs := by
  cases count with
  | zero => rfl
  | succ count => simp only [readMore, none]

/-- A bound that is not less than the number of characters has no part in the reading. -/
theorem readMore_congr (shrinks : ∀ cs next, separator cs = some next → next.length < cs.length)
    (takes : ∀ cs a rest, item cs = .done a rest → rest.length ≤ cs.length) {count bound : Nat}
    {cs : List Char} (enough : cs.length ≤ count) (enough' : cs.length ≤ bound) :
    readMore separator item count cs = readMore separator item bound cs := by
  induction count generalizing cs bound with
  | zero =>
    have none : separator cs = none := by
      refine Option.eq_none_iff_forall_ne_some.mpr fun next separated => ?_
      have lt := shrinks cs next separated
      omega
    rw [readMore_of_none none, readMore_of_none none]
  | succ count ih =>
    cases separated : separator cs with
    | none => rw [readMore_of_none separated, readMore_of_none separated]
    | some next =>
      have lt := shrinks cs next separated
      obtain ⟨bound, rfl⟩ := Nat.exists_eq_add_one.mpr (show 0 < bound by omega)
      cases read : item next with
      | missing => simp only [readMore, separated, read]
      | failed failure => simp only [readMore, separated, read]
      | done value rest =>
        have le := takes next value rest read
        have same : readMore separator item count rest = readMore separator item bound rest :=
          ih (by omega) (by omega)
        simp only [readMore, separated, read, same]

theorem readList_more (shrinks : ∀ cs next, separator cs = some next → next.length < cs.length)
    (takes : ∀ cs a rest, item cs = .done a rest → rest.length ≤ cs.length)
    {cs behind next : List Char} {value : α} (read : item cs = .done value behind)
    (separated : separator behind = some next) :
    readList separator item cs =
      ((readList separator item next).orDefault [] behind).map (value :: ·) := by
  have lt := shrinks behind next separated
  obtain ⟨count, length⟩ := Nat.exists_eq_add_one.mpr (show 0 < behind.length by omega)
  simp only [readList, read, Reading.andThen, length, readMore, separated]
  cases second : item next with
  | missing => rfl
  | failed failure => rfl
  | done other rest =>
    have le := takes next other rest second
    have same := readMore_congr shrinks takes (show rest.length ≤ count by omega)
      (Nat.le_refl rest.length)
    simp only [same]
    cases more : readMore separator item rest.length rest with
    | missing => exact absurd more (readMore_ne_missing _ _)
    | failed failure => rfl
    | done others rest => rfl

theorem stopsAtEnd_readList_last (misses : ∀ gap, IsSpacing gap → item gap = .missing)
    {cs : List Char}
    (ends : ∀ rest next, trim rest = dangling cs → separator rest = some next → IsSpacing next)
    (stops : StopsAtEnd trim cs (item cs)) : StopsAtEnd trim cs (readList separator item cs) := by
  unfold readList
  cases read : item cs with
  | missing => rwa [read] at stops
  | failed failure => rwa [read] at stops
  | done value rest =>
    rw [read] at stops
    simp only [Reading.andThen, readMore_ends misses fun next => ends rest next stops]
    exact stops

theorem stopsAtEnd_readList_more
    (shrinks : ∀ cs next, separator cs = some next → next.length < cs.length)
    (takes : ∀ cs a rest, item cs = .done a rest → rest.length ≤ cs.length)
    {cs behind next : List Char} {value : α} (read : item cs = .done value behind)
    (separated : separator behind = some next)
    (others : StopsAtEnd trim next (readList separator item next))
    (visible : ¬ IsSpacing next → dangling cs = dangling next)
    (misses : IsSpacing next → item next = .missing ∧ trim behind = dangling cs) :
    StopsAtEnd trim cs (readList separator item cs) := by
  rw [readList_more shrinks takes read separated]
  refine StopsAtEnd.map ?_ _
  by_cases spacing : IsSpacing next
  · obtain ⟨missing, here⟩ := misses spacing
    simp only [readList, missing, Reading.andThen, Reading.orDefault]
    exact here
  · have same := visible spacing
    cases list : readList separator item next with
    | missing =>
      rw [list] at others
      exact absurd others spacing
    | failed failure =>
      rw [list] at others
      exact Eq.trans others same.symm
    | done values rest =>
      rw [list] at others
      exact Eq.trans others same.symm

end Lists

/-! ## Spacing alone -/

theorem readTypeWithin_spacing {gap : List Char} (hg : IsSpacing gap) (depth : Nat) :
    readTypeWithin depth gap = .missing := by
  cases depth with
  | zero => rfl
  | succ depth =>
    cases gap with
    | nil => rfl
    | cons c gap =>
      have start : isNameStart c = false := by
        cases start : isNameStart c with
        | false => rfl
        | true =>
          have spacing := hg c List.mem_cons_self
          rw [isSpacing_of_isNameStart start] at spacing
          cases spacing
      simp [readTypeWithin, readTypeWith, readName?, start]

theorem readSpacedArgument_spacing {gap : List Char} (hg : IsSpacing gap) (depth : Nat) :
    readSpacedArgument (readTypeWithin depth) gap = .missing := by
  rw [readSpacedArgument, skipSpacing_eq_nil_of_isSpacing hg, readArgument,
    readTypeWithin_spacing isSpacing_nil]
  rfl

theorem length_lt_of_readComma? {cs next : List Char} (separated : readComma? cs = some next) :
    next.length < cs.length := by
  obtain ⟨gap, rfl, rfl⟩ := sound_readComma? separated
  simp

theorem length_lt_of_readAmpersand? {cs next : List Char}
    (separated : readAmpersand? cs = some next) : next.length < cs.length := by
  obtain ⟨gap, rfl, before, after, rfl, -, -⟩ := sound_readAmpersand? separated
  simp only [List.length_append, List.length_cons]
  omega

/-! ## Arguments -/

theorem readArguments_cut {type : Reader TypeRef} {gap inner : List Char} (hg : IsSpacing gap)
    (list : StopsAtEnd id inner (readList readComma? (readSpacedArgument type) inner)) :
    ∃ failure, readArguments type (gap ++ '<' :: inner) = .failed failure ∧
      failure.remaining = dangling inner := by
  have opened : skipSpacing (gap ++ '<' :: inner) = '<' :: inner := by
    rw [skipSpacing_append hg]
    exact skipSpacing_cons (by decide) _
  simp only [readArguments, opened]
  cases read : readList readComma? (readSpacedArgument type) inner with
  | missing =>
    rw [read] at list
    refine ⟨⟨.typeName, skipSpacing inner, false⟩, rfl, ?_⟩
    rw [list.dangling]
    exact skipSpacing_eq_nil_of_isSpacing list
  | failed failure =>
    rw [read] at list
    exact ⟨failure, rfl, list⟩
  | done generics rest =>
    rw [read] at list
    obtain rfl : rest = dangling inner := list
    refine ⟨⟨.listEnd ('<' :: inner), dangling inner, false⟩, ?_, rfl⟩
    simp only [Reading.orFail, Reading.andThen]
    -- A separator is no closing bracket.
    split
    · rename_i tail closed
      rcases dangling_cases inner with complete | ⟨front, c, gap, -, separator, -, eq⟩
      · cases complete.symm.trans closed
      · obtain ⟨rfl, -⟩ := List.cons.inj (eq.symm.trans closed)
        cases separator
    · rfl

/-! ## Types and wildcards -/

section

variable {type : Reader TypeRef} {name behind rest : List Char} {gs : List Generic}

theorem readTypeWith_of_arguments (named : readName? (name ++ behind) = some (name, behind))
    (arguments : (readArguments type behind).orDefault [] behind = .done gs rest) :
    readTypeWith type (name ++ behind) =
      (readDimensions rest.length rest).map fun n => .mk (String.ofList name) gs n := by
  simp only [readTypeWith, named, arguments, Reading.andThen]

theorem stopsAtEnd_of_brackets {cs : List Char} {reading : Reading Nat}
    (complete : dangling cs = [])
    (brackets : (∃ n rest, reading = .done n rest ∧ skipSpacing rest = []) ∨
      ∃ failure, reading = .failed failure ∧ failure.remaining = []) :
    StopsAtEnd skipSpacing cs reading := by
  rcases brackets with ⟨n, rest, rfl, skipped⟩ | ⟨failure, rfl, ended⟩
  · exact Eq.trans skipped complete.symm
  · exact Eq.trans ended complete.symm

theorem stopsAtEnd_name {after : List Char} {n : Nat} (hn : IsName name)
    (hd : IsDimensions (behind ++ after) n) :
    StopsAtEnd skipSpacing (name ++ behind) (readTypeWith type (name ++ behind)) := by
  have whole : StopsAt [',', '>', '&', '['] (behind ++ after ++ []) := hd.stopsAt (stopsAt_nil _)
  rw [List.append_nil] at whole
  have stops := whole.of_append
  have complete : dangling (name ++ behind) = [] :=
    dangling_append_eq_nil hn.dangling fun c mem =>
      hd.not_separator c (List.mem_append_left _ mem)
  have missing : (readArguments type behind).orDefault [] behind = .done [] behind := by
    rw [stops.readArguments]
    rfl
  rw [readTypeWith_of_arguments (hn.readName? (stops.nameEnds (by decide))) missing]
  exact (stopsAtEnd_of_brackets complete (hd.cut rfl (Nat.le_refl _))).map _

theorem stopsAtEnd_name_spacing (hn : IsName name) (hg : IsSpacing behind) :
    StopsAtEnd skipSpacing (name ++ behind) (readTypeWith type (name ++ behind)) := by
  have brackets := IsDimensions.pair hg isSpacing_nil .none
  rw [List.append_assoc] at brackets
  exact stopsAtEnd_name hn brackets

theorem stopsAtEnd_name_dot (hn : IsName name) :
    StopsAtEnd skipSpacing (name ++ ['.']) (readTypeWith type (name ++ ['.'])) := by
  have named : readName? (name ++ ['.']) = some (name, ['.']) := by
    have part : isNamePart '.' = false := by decide
    rw [hn.readName?_append]
    simp [readNameTail, part]
  rw [readTypeWith_of_arguments named rfl]
  exact (dangling_separator name rfl isSpacing_nil).symm

theorem stopsAtEnd_cutName {cs others : List Char} (hn : IsName (cs ++ others))
    (between : BetweenTokens cs others) : StopsAtEnd skipSpacing cs (readTypeWith type cs) := by
  rcases hn.cut rfl between with rfl | name | ⟨front, name, rfl⟩
  · exact isSpacing_nil
  · have stops : StopsAtEnd skipSpacing (cs ++ []) (readTypeWith type (cs ++ [])) :=
      stopsAtEnd_name_spacing name isSpacing_nil
    rwa [List.append_nil] at stops
  · exact stopsAtEnd_name_dot name

theorem stopsAtEnd_opened {gap inner : List Char} (hn : IsName name) (hg : IsSpacing gap)
    (list : StopsAtEnd id inner (readList readComma? (readSpacedArgument type) inner)) :
    StopsAtEnd skipSpacing (name ++ gap ++ '<' :: inner)
      (readTypeWith type (name ++ gap ++ '<' :: inner)) := by
  obtain ⟨failure, failed, ended⟩ := readArguments_cut hg list
  have opened : StopsAt ['<'] (gap ++ '<' :: inner) :=
    .append hg (stopsAt_cons (by simp) (by decide) _)
  have named := hn.readName? (opened.nameEnds (by decide))
  rw [← dangling_behind (name ++ gap) (c := '<') rfl rfl] at ended
  rw [List.append_assoc] at ended ⊢
  simp only [readTypeWith, named, failed, Reading.orDefault, Reading.andThen]
  exact ended

theorem stopsAtEnd_closed {gap inner after : List Char} {n : Nat} (hn : IsName name)
    (hg : IsSpacing gap)
    (list : ReadsList readComma? (readSpacedArgument type) (inner ++ '>' :: behind) gs
      ('>' :: behind))
    (hd : IsDimensions (behind ++ after) n) :
    StopsAtEnd skipSpacing (name ++ gap ++ '<' :: inner ++ '>' :: behind)
      (readTypeWith type (name ++ gap ++ '<' :: inner ++ '>' :: behind)) := by
  have complete : dangling (name ++ gap ++ '<' :: inner ++ '>' :: behind) = [] := by
    rw [dangling_behind _ (c := '>') rfl rfl]
    exact dangling_eq_nil_of_forall fun c mem => hd.not_separator c (List.mem_append_left _ mem)
  have opened : StopsAt ['<'] (gap ++ '<' :: (inner ++ '>' :: behind)) :=
    .append hg (stopsAt_cons (by simp) (by decide) _)
  have named := hn.readName? (opened.nameEnds (by decide))
  have arguments : (readArguments type (gap ++ '<' :: (inner ++ '>' :: behind))).orDefault []
      (gap ++ '<' :: (inner ++ '>' :: behind)) = .done gs behind := by
    rw [list.readArguments hg]
    rfl
  simp only [List.append_assoc, List.cons_append] at complete ⊢
  rw [readTypeWith_of_arguments named arguments]
  exact (stopsAtEnd_of_brackets complete (hd.cut rfl (Nat.le_refl _))).map _

end

/-! ## Arguments and bounds -/

theorem stopsAtEnd_lastArgument {depth : Nat} {cs : List Char}
    (stops : StopsAtEnd id cs (readSpacedArgument (readTypeWithin depth) cs)) :
    StopsAtEnd id cs (readList readComma? (readSpacedArgument (readTypeWithin depth)) cs) := by
  refine stopsAtEnd_readList_last (fun gap hg => readSpacedArgument_spacing hg depth) ?_ stops
  intro rest next same separated
  obtain ⟨gap, rfl, rfl⟩ := sound_readComma? separated
  rcases dangling_cases cs with complete | ⟨front, c, gap, -, -, hg, eq⟩
  · cases complete.symm.trans same.symm
  · obtain ⟨-, rfl⟩ := List.cons.inj (eq.symm.trans same.symm)
    exact hg

theorem stopsAtEnd_lastBound {depth : Nat} {cs : List Char}
    (stops : StopsAtEnd skipSpacing cs (readTypeWithin depth cs)) :
    StopsAtEnd skipSpacing cs (readList readAmpersand? (readTypeWithin depth) cs) := by
  refine stopsAtEnd_readList_last (fun gap hg => readTypeWithin_spacing hg depth) ?_ stops
  intro rest next same separated
  unfold readAmpersand? at separated
  rw [same] at separated
  rcases dangling_cases cs with complete | ⟨front, c, gap, -, -, hg, eq⟩
  · rw [complete] at separated
    cases separated
  · rw [eq] at separated
    split at separated
    · rename_i tail found
      obtain ⟨-, rfl⟩ := List.cons.inj found
      obtain rfl := Option.some.inj separated
      rw [skipSpacing_eq_nil_of_isSpacing hg]
      exact isSpacing_nil
    · cases separated

theorem stopsAtEnd_spaced {type : Reader TypeRef} {before cs : List Char} (hb : IsSpacing before)
    {c : Char} {tail : List Char} (starts : cs = c :: tail) (visible : isSpacing c = false)
    (stops : StopsAtEnd skipSpacing cs (readArgument type cs)) :
    StopsAtEnd id (before ++ cs) (readSpacedArgument type (before ++ cs)) := by
  subst starts
  have shifted := stops.append (not_isSpacing_cons visible tail) before
  rw [readSpacedArgument, skipSpacing_append hb, skipSpacing_cons visible]
  cases read : readArgument type (c :: tail) with
  | missing => rwa [read] at shifted
  | failed failure => rwa [read] at shifted
  | done generic rest => rwa [read] at shifted

theorem readArgument_of_start {type : Reader TypeRef} {c : Char} (start : isNameStart c = true)
    (tail : List Char) :
    readArgument type (c :: tail) = (type (c :: tail)).map .ofType := by
  have ne : c ≠ '?' := by
    rintro rfl
    exact absurd start (by decide)
  simp [readArgument, readWildcard, ne]

section

variable {type : Reader TypeRef} {gap cs : List Char}

theorem stopsAtEnd_wildcard (hg : IsSpacing gap) :
    StopsAtEnd skipSpacing ('?' :: gap) (readArgument type ('?' :: gap)) := by
  simp only [readArgument, readWildcard, (stopsAt_spacing hg _).readBoundKeyword?]
  have complete : dangling ('?' :: gap) = dangling gap := dangling_behind [] rfl rfl gap
  exact (skipSpacing_eq_nil_of_isSpacing hg).trans (complete.trans hg.dangling).symm

theorem readArgument_announced (hg : IsSpacing gap) (ng : gap ≠ []) (keyword : BoundKeyword)
    (ends : ∀ c ∈ cs.head?, isNamePart c = false) :
    readArgument type ('?' :: (gap ++ (keyword.name.toList ++ cs))) =
      (readBounds type cs).map (.wildcard keyword) := by
  have announced : readBoundKeyword? (gap ++ (keyword.name.toList ++ cs)) = some (keyword, cs) := by
    rw [readBoundKeyword?, readSpacing?_append hg ng, skipSpacing_keyword, Option.bind_some]
    cases cs with
    | nil => cases keyword <;> rfl
    | cons c tail => exact readKeyword?_append keyword (ends c rfl) tail
  simp only [readArgument, readWildcard, announced]
  cases read : readBounds type cs with
  | missing => exact absurd read (readBounds_ne_missing type cs)
  | failed failure => rfl
  | done bounds rest => rfl

theorem isNamePart_keyword (keyword : BoundKeyword) :
    ∀ c ∈ keyword.name.toList, isNamePart c = true := by
  rw [← List.all_eq_true]
  cases keyword <;> decide

theorem readBounds_spacing (nothing : type [] = .missing) (hg : IsSpacing gap) :
    ∃ failure, readBounds type gap = .failed failure ∧ failure.remaining = [] := by
  cases gap with
  | nil => exact ⟨_, rfl, rfl⟩
  | cons c gap =>
    have spaced := readSpacing?_append hg (List.cons_ne_nil _ _) []
    rw [List.append_nil] at spaced
    refine ⟨⟨.typeName, [], true⟩, ?_, rfl⟩
    rw [readBounds, spaced]
    simp [readList, skipSpacing, nothing, Reading.andThen, Reading.orFail, Reading.amongBounds]

theorem head_of_isSpacing (hg : IsSpacing gap) (rest : List Char) (ng : gap ≠ []) :
    ∀ c ∈ (gap ++ rest).head?, isNamePart c = false := by
  cases gap with
  | nil => exact absurd rfl ng
  | cons d gap =>
    intro c mem
    obtain rfl := Option.some.inj mem
    exact isNamePart_of_isSpacing (hg d List.mem_cons_self)

theorem stopsAtEnd_keyword {gap' : List Char} (nothing : type [] = .missing) (hg : IsSpacing gap)
    (ng : gap ≠ []) (keyword : BoundKeyword) (hg' : IsSpacing gap') :
    StopsAtEnd skipSpacing ('?' :: (gap ++ (keyword.name.toList ++ gap')))
      (readArgument type ('?' :: (gap ++ (keyword.name.toList ++ gap')))) := by
  have ends : ∀ c ∈ gap'.head?, isNamePart c = false := fun c mem =>
    isNamePart_of_isSpacing (hg' c (List.mem_of_mem_head? mem))
  obtain ⟨failure, failed, ended⟩ := readBounds_spacing nothing hg'
  have plain : ∀ c ∈ '?' :: (gap ++ (keyword.name.toList ++ gap')), isSeparator c = false := by
    rw [List.forall_mem_cons, List.forall_mem_append, List.forall_mem_append]
    exact ⟨rfl, hg.not_separator,
      fun c mem => isSeparator_of_isNamePart (isNamePart_keyword keyword c mem), hg'.not_separator⟩
  rw [readArgument_announced hg ng keyword ends, failed]
  exact ended.trans (dangling_eq_nil_of_forall plain).symm

theorem stopsAtEnd_bounded {gap' tail : List Char} {c : Char} (hg : IsSpacing gap) (ng : gap ≠ [])
    (keyword : BoundKeyword) (hg' : IsSpacing gap') (ng' : gap' ≠ []) (starts : cs = c :: tail)
    (start : isNameStart c = true)
    (list : StopsAtEnd skipSpacing cs (readList readAmpersand? type cs)) :
    StopsAtEnd skipSpacing ('?' :: (gap ++ (keyword.name.toList ++ (gap' ++ cs))))
      (readArgument type ('?' :: (gap ++ (keyword.name.toList ++ (gap' ++ cs))))) := by
  have spacing := isSpacing_of_isNameStart start
  have visible : ¬ IsSpacing cs := by
    rw [starts]
    exact not_isSpacing_cons spacing tail
  have skipped : skipSpacing cs = cs := by rw [starts, skipSpacing_cons spacing]
  rw [readArgument_announced hg ng keyword (head_of_isSpacing hg' cs ng'),
    readBounds_append hg' ng' skipped]
  have whole : '?' :: (gap ++ (keyword.name.toList ++ (gap' ++ cs))) =
      '?' :: (gap ++ (keyword.name.toList ++ gap')) ++ cs := by simp
  rw [whole]
  exact (((list.orFail visible _).amongBounds.map _).append visible _)

end

theorem stopsAtEnd_spacing {cs : List Char} (hg : IsSpacing cs) (depth : Nat) :
    StopsAtEnd id cs (readSpacedArgument (readTypeWithin depth) cs) := by
  rw [readSpacedArgument_spacing hg]
  exact hg

theorem stopsAtEnd_whole {α : Type} {cs gap : List Char} (complete : dangling cs = [])
    (hg : IsSpacing gap) (value : α) : StopsAtEnd skipSpacing (cs ++ gap) (.done value gap) :=
  (skipSpacing_eq_nil_of_isSpacing hg).trans
    (dangling_append_eq_nil complete hg.not_separator).symm

section

variable {depth : Nat} {body before behind : List Char} {t : TypeRef}

theorem stopsAtEnd_ampersand
    (read : readTypeWithin depth (body ++ (before ++ '&' :: behind)) =
      .done t (before ++ '&' :: behind))
    (hb : IsSpacing before) (ha : IsSpacing behind) :
    StopsAtEnd skipSpacing (body ++ (before ++ '&' :: behind))
      (readList readAmpersand? (readTypeWithin depth) (body ++ (before ++ '&' :: behind))) := by
  have separated : readAmpersand? (before ++ '&' :: (behind ++ [])) = some [] :=
    readAmpersand?_append hb ha rfl
  rw [List.append_nil] at separated
  refine stopsAtEnd_readList_more (fun _ _ => length_lt_of_readAmpersand?)
    (fun _ _ _ => (sound_readTypeWithin depth).length_le) read separated ?_ ?_ ?_
  · rw [readList, readTypeWithin_spacing isSpacing_nil]
    exact isSpacing_nil
  · exact fun visible => absurd isSpacing_nil visible
  · intro _
    refine ⟨readTypeWithin_spacing isSpacing_nil depth, ?_⟩
    rw [skipSpacing_append hb, skipSpacing_cons (by decide), ← List.append_assoc,
      dangling_separator _ rfl ha]

theorem stopsAtEnd_moreBounds {front : List Char}
    (read : readTypeWithin depth (body ++ (before ++ '&' :: (behind ++ front))) =
      .done t (before ++ '&' :: (behind ++ front)))
    (hb : IsSpacing before) (ha : IsSpacing behind)
    (starts : ∃ c tail, front = c :: tail ∧ isNameStart c = true)
    (others : StopsAtEnd skipSpacing front
      (readList readAmpersand? (readTypeWithin depth) front)) :
    StopsAtEnd skipSpacing (body ++ (before ++ '&' :: (behind ++ front)))
      (readList readAmpersand? (readTypeWithin depth)
        (body ++ (before ++ '&' :: (behind ++ front)))) := by
  obtain ⟨c, tail, rfl, start⟩ := starts
  have spacing := isSpacing_of_isNameStart start
  have visible := not_isSpacing_cons spacing tail
  have separated := readAmpersand?_append hb ha (skipSpacing_cons spacing tail)
  refine stopsAtEnd_readList_more (fun _ _ => length_lt_of_readAmpersand?)
    (fun _ _ _ => (sound_readTypeWithin depth).length_le) read separated others ?_ ?_
  · intro _
    have whole : body ++ (before ++ '&' :: (behind ++ c :: tail)) =
        (body ++ before ++ '&' :: behind) ++ c :: tail := by simp
    rw [whole, dangling_append _ visible]
  · exact fun empty => absurd empty visible

end

end SourceModel.TypeExpr
