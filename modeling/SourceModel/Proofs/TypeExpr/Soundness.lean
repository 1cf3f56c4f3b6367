import SourceModel.Proofs.TypeExpr.Grammar

namespace SourceModel.TypeExpr
open Text

/-- What the reader returns is derivable from the text that it takes. -/
def Sound {α : Type} (reader : Reader α) (derives : List Char → α → Prop) : Prop :=
  ∀ cs a rest, reader cs = .done a rest → ∃ text, cs = text ++ rest ∧ derives text a

theorem IsName.cons_part {c d : Char} {cs : List Char} (hd : isNamePart d = true)
    (h : IsName (c :: cs)) : IsName (c :: d :: cs) := by
  generalize e : c :: cs = text at h
  cases h with
  | identifier first =>
    obtain ⟨start, parts⟩ := first
    obtain ⟨rfl, rfl⟩ := List.cons.inj e
    exact .identifier (.mk start (by simpa [hd] using parts))
  | qualified first others =>
    obtain ⟨start, parts⟩ := first
    rw [List.cons_append] at e
    obtain ⟨rfl, rfl⟩ := List.cons.inj e
    have longer : IsIdentifier (c :: d :: _) := .mk start (by simpa [hd] using parts)
    exact .qualified longer others

theorem isName_cons_readNameTail (cs : List Char) {c : Char} (start : isNameStart c = true) :
    IsName (c :: (readNameTail cs).1) := by
  have single (d : Char) (hd : isNameStart d = true) : IsIdentifier [d] := .mk hd (by simp)
  fun_induction readNameTail cs generalizing c with
  | case1 d rest hd name after eq ih =>
    rw [eq] at ih
    exact .qualified (single c start) (ih hd)
  | case2 => exact .identifier (single c start)
  | case3 d rest _ hd name after eq ih =>
    rw [eq] at ih
    exact (ih start).cons_part hd
  | case4 => exact .identifier (single c start)
  | case5 => exact .identifier (single c start)

theorem sound_readName? {cs name rest : List Char} (h : readName? cs = some (name, rest)) :
    cs = name ++ rest ∧ IsName name := by
  refine ⟨(eq_of_readName? h).1, ?_⟩
  cases cs with
  | nil => cases h
  | cons c cs =>
    simp only [readName?] at h
    split at h
    · rename_i start
      obtain ⟨rfl, rfl⟩ := by simpa using h
      exact isName_cons_readNameTail cs start
    · cases h

theorem sound_readSpacing? {cs rest : List Char} (h : readSpacing? cs = some rest) :
    ∃ gap, cs = gap ++ rest ∧ gap ≠ [] ∧ IsSpacing gap := by
  cases cs with
  | nil => cases h
  | cons c cs =>
    simp only [readSpacing?] at h
    split at h
    · rename_i hc
      obtain rfl := Option.some.inj h
      obtain ⟨gap, eq, hg⟩ := exists_spacing cs
      refine ⟨c :: gap, ?_, by simp, ?_⟩
      · rw [List.cons_append, ← eq]
      · intro d mem
        rcases List.mem_cons.mp mem with rfl | mem
        · exact hc
        · exact hg d mem
    · cases h

theorem sound_readWord? {word : String} {cs rest : List Char}
    (h : readWord? word cs = some rest) : cs = word.toList ++ rest := by
  unfold readWord? at h
  split at h
  · rename_i remaining taken
    split at h
    · cases h
    · obtain rfl := Option.some.inj h
      exact (List.append_eq_of_isPrefixOf?_eq_some taken).symm
  · cases h

theorem sound_readKeyword? {keyword : BoundKeyword} {cs rest : List Char}
    (h : readKeyword? cs = some (keyword, rest)) : cs = keyword.name.toList ++ rest := by
  unfold readKeyword? at h
  split at h
  · rename_i behind taken
    obtain ⟨rfl, rfl⟩ := Prod.mk.inj (Option.some.inj h)
    exact sound_readWord? taken
  · obtain ⟨behind, taken, e⟩ := Option.map_eq_some_iff.mp h
    obtain ⟨rfl, rfl⟩ := Prod.mk.inj e
    exact sound_readWord? taken

theorem sound_readBoundKeyword? {keyword : BoundKeyword} {cs rest : List Char}
    (h : readBoundKeyword? cs = some (keyword, rest)) :
    ∃ gap, cs = gap ++ (keyword.name.toList ++ rest) ∧ gap ≠ [] ∧ IsSpacing gap := by
  obtain ⟨named, spaced, known⟩ := Option.bind_eq_some_iff.mp h
  obtain rfl := sound_readKeyword? known
  exact sound_readSpacing? spaced

section Lists

variable {α : Type} {separator : List Char → Option (List Char)} {item : Reader α}
  {separates : List Char → Prop} {derives : List Char → α → Prop}
  {derivesAll : List Char → List α → Prop}

theorem sound_readMore
    (hseparator : ∀ cs behind, separator cs = some behind →
      ∃ gap, cs = gap ++ behind ∧ separates gap)
    (hitem : Sound item derives)
    (last : ∀ {cs a}, derives cs a → derivesAll cs [a])
    (more : ∀ {cs gap rest a as}, derives cs a → separates gap → derivesAll rest as →
      derivesAll (cs ++ gap ++ rest) (a :: as))
    {count : Nat} {text cs rest : List Char} {a : α} {as : List α} (first : derives text a)
    (h : readMore separator item count cs = .done as rest) :
    ∃ body, cs = body ++ rest ∧ derivesAll (text ++ body) (a :: as) := by
  have stop : derivesAll (text ++ []) [a] := by
    rw [List.append_nil]
    exact last first
  induction count generalizing text cs a as with
  | zero =>
    obtain ⟨rfl, rfl⟩ := by simpa [readMore] using h
    exact ⟨[], rfl, stop⟩
  | succ count ih =>
    simp only [readMore] at h
    split at h
    · obtain ⟨rfl, rfl⟩ := by simpa using h
      exact ⟨[], rfl, stop⟩
    · rename_i behind separated
      split at h
      -- No item stands behind the separator, so the list ends before it.
      · obtain ⟨rfl, rfl⟩ := by simpa using h
        exact ⟨[], rfl, stop⟩
      · cases h
      · rename_i value remaining taken
        obtain ⟨others, read, rfl⟩ := Reading.map_eq_done.mp h
        obtain ⟨gap, rfl, hgap⟩ := hseparator _ _ separated
        obtain ⟨next, rfl, hnext⟩ := hitem _ _ _ taken
        obtain ⟨body, rfl, hbody⟩ := ih hnext read (by rw [List.append_nil]; exact last hnext)
        refine ⟨gap ++ (next ++ body), by simp, ?_⟩
        rw [← List.append_assoc]
        exact more first hgap hbody

theorem sound_readList
    (hseparator : ∀ cs behind, separator cs = some behind →
      ∃ gap, cs = gap ++ behind ∧ separates gap)
    (hitem : Sound item derives)
    (last : ∀ {cs a}, derives cs a → derivesAll cs [a])
    (more : ∀ {cs gap rest a as}, derives cs a → separates gap → derivesAll rest as →
      derivesAll (cs ++ gap ++ rest) (a :: as)) :
    Sound (readList separator item) derivesAll := by
  intro cs as rest h
  obtain ⟨a, behind, taken, mapped⟩ := Reading.andThen_eq_done.mp h
  obtain ⟨others, read, rfl⟩ := Reading.map_eq_done.mp mapped
  obtain ⟨text, rfl, first⟩ := hitem _ _ _ taken
  obtain ⟨body, rfl, hbody⟩ := sound_readMore hseparator hitem last more first read
  exact ⟨text ++ body, by simp, hbody⟩

end Lists

theorem sound_readAmpersand? {cs behind : List Char} (h : readAmpersand? cs = some behind) :
    ∃ gap, cs = gap ++ behind ∧
      ∃ before after, gap = before ++ '&' :: after ∧ IsSpacing before ∧ IsSpacing after := by
  unfold readAmpersand? at h
  split at h
  · rename_i rest skipped
    obtain rfl := Option.some.inj h
    obtain ⟨before, eq, hb⟩ := exists_spacing cs
    obtain ⟨after, eq', ha⟩ := exists_spacing rest
    refine ⟨before ++ '&' :: after, ?_, before, after, rfl, hb, ha⟩
    rw [List.append_assoc, List.cons_append, ← eq', ← skipped, ← eq]
  · cases h

theorem sound_readComma? {cs behind : List Char} (h : readComma? cs = some behind) :
    ∃ gap, cs = gap ++ behind ∧ gap = [','] := by
  unfold readComma? at h
  split at h
  · obtain rfl := Option.some.inj h
    exact ⟨[','], rfl, rfl⟩
  · cases h

section Types

variable {type : Reader TypeRef}

theorem sound_bounds (htype : Sound type DerivesType) :
    Sound (readList readAmpersand? type) DerivesBounds := by
  refine sound_readList (fun _ _ => sound_readAmpersand?) htype .last ?_
  rintro cs gap rest t ts first ⟨before, after, rfl, hb, ha⟩ others
  simpa using DerivesBounds.more first hb ha others

theorem sound_readBounds (htype : Sound type DerivesType) :
    Sound (readBounds type) fun text ts =>
      ∃ gap bounds, text = gap ++ bounds ∧ gap ≠ [] ∧ IsSpacing gap ∧ DerivesBounds bounds ts := by
  intro cs ts rest h
  unfold readBounds at h
  split at h
  · cases h
  · rename_i behind spaced
    rw [Reading.amongBounds_eq_done, Reading.orFail_eq_done] at h
    obtain ⟨gap, rfl, ng, hg⟩ := sound_readSpacing? spaced
    obtain ⟨bounds, rfl, hb⟩ := sound_bounds htype _ _ _ h
    exact ⟨gap ++ bounds, by simp, gap, bounds, rfl, ng, hg, hb⟩

theorem sound_readWildcard (htype : Sound type DerivesType) :
    Sound (readWildcard type) DerivesWildcard := by
  intro cs g rest h
  unfold readWildcard at h
  split at h
  · rename_i behind
    split at h
    · obtain ⟨rfl, rfl⟩ := by simpa using h
      exact ⟨['?'], rfl, .bare⟩
    · rename_i keyword remaining announced
      obtain ⟨ts, read, rfl⟩ := Reading.map_eq_done.mp h
      obtain ⟨gap, rfl, ng, hg⟩ := sound_readBoundKeyword? announced
      obtain ⟨text, rfl, gap', bounds, rfl, ng', hg', hbounds⟩ := sound_readBounds htype _ _ _ read
      exact ⟨_, by simp, .bounded hg ng keyword hg' ng' hbounds⟩
  · cases h

theorem sound_readSpacedArgument (htype : Sound type DerivesType) :
    Sound (readSpacedArgument type) DerivesArgument := by
  intro cs g rest h
  obtain ⟨g, behind, taken, skipped⟩ := Reading.andThen_eq_done.mp h
  obtain ⟨rfl, rfl⟩ := by simpa using skipped
  obtain ⟨before, eq, hb⟩ := exists_spacing cs
  obtain ⟨after, eq', ha⟩ := exists_spacing behind
  have text : ∃ text, skipSpacing cs = text ++ behind ∧
      DerivesArgument (before ++ text ++ after) g := by
    unfold readArgument at taken
    split at taken
    · obtain ⟨t, read, rfl⟩ := Reading.map_eq_done.mp taken
      obtain ⟨text, eq, ht⟩ := htype _ _ _ read
      exact ⟨text, eq, .type hb ht ha⟩
    · obtain ⟨text, eq, hg⟩ := sound_readWildcard htype _ _ _ taken
      exact ⟨text, eq, hg.argument hb ha⟩
  obtain ⟨text, eq'', hg⟩ := text
  refine ⟨before ++ text ++ after, ?_, hg⟩
  rw [List.append_assoc, ← eq', List.append_assoc, ← eq'', ← eq]

theorem sound_arguments (htype : Sound type DerivesType) :
    Sound (readList readComma? (readSpacedArgument type)) DerivesArguments := by
  refine sound_readList (fun _ _ => sound_readComma?) (sound_readSpacedArgument htype) .last ?_
  rintro cs gap rest g gs first rfl others
  simpa using DerivesArguments.more first others

theorem sound_readArguments (htype : Sound type DerivesType) :
    Sound (readArguments type) fun text gs =>
      ∃ gap inner, text = gap ++ '<' :: inner ++ ['>'] ∧ IsSpacing gap ∧
        DerivesArguments inner gs := by
  intro cs gs rest h
  unfold readArguments at h
  split at h
  · rename_i opened skipped
    obtain ⟨gs, remaining, read, closed⟩ := Reading.andThen_eq_done.mp h
    rw [Reading.orFail_eq_done] at read
    obtain ⟨inner, rfl, hi⟩ := sound_arguments htype _ _ _ read
    obtain ⟨gap, eq, hg⟩ := exists_spacing cs
    split at closed
    · obtain ⟨rfl, rfl⟩ := by simpa using closed
      refine ⟨gap ++ '<' :: inner ++ ['>'], ?_, gap, inner, rfl, hg, hi⟩
      rw [eq, skipped]
      simp
    · cases closed
  · cases h

theorem sound_readDimensions (count : Nat) : Sound (readDimensions count) IsDimensions := by
  induction count with
  | zero =>
    intro cs n rest h
    obtain ⟨rfl, rfl⟩ := by simpa [readDimensions] using h
    exact ⟨[], rfl, .none⟩
  | succ count ih =>
    intro cs n rest h
    simp only [readDimensions] at h
    split at h
    · rename_i opened skipped
      split at h
      · rename_i behind skipped'
        obtain ⟨n, read, rfl⟩ := Reading.map_eq_done.mp h
        obtain ⟨others, rfl, ho⟩ := ih _ _ _ read
        obtain ⟨before, eq, hb⟩ := exists_spacing cs
        obtain ⟨within, eq', hw⟩ := exists_spacing opened
        refine ⟨before ++ '[' :: within ++ ']' :: others, ?_, .pair hb hw ho⟩
        rw [eq, skipped, eq', skipped']
        simp
      · cases h
    · obtain ⟨rfl, rfl⟩ := by simpa using h
      exact ⟨[], rfl, .none⟩

theorem sound_readTypeWith (htype : Sound type DerivesType) :
    Sound (readTypeWith type) DerivesType := by
  intro cs t rest h
  unfold readTypeWith at h
  split at h
  · cases h
  · rename_i name behind named
    obtain ⟨gs, remaining, harguments, mapped⟩ := Reading.andThen_eq_done.mp h
    obtain ⟨n, hdimensions, rfl⟩ := Reading.map_eq_done.mp mapped
    obtain ⟨rfl, hn⟩ := sound_readName? named
    obtain ⟨brackets, rfl, hd⟩ := sound_readDimensions _ _ _ _ hdimensions
    rcases Reading.orDefault_eq_done.mp harguments with harguments | ⟨-, rfl, rfl⟩
    · obtain ⟨text, rfl, gap, inner, rfl, hg, hi⟩ := sound_readArguments htype _ _ _ harguments
      refine ⟨name ++ gap ++ '<' :: inner ++ '>' :: brackets, by simp, ?_⟩
      exact .generic hn hg hi hd
    · exact ⟨name ++ brackets, by simp, .plain hn hd⟩

end Types

theorem sound_readTypeWithin (depth : Nat) : Sound (readTypeWithin depth) DerivesType := by
  induction depth with
  | zero =>
    intro cs t rest h
    cases h
  | succ depth ih => exact sound_readTypeWith ih

theorem sound_readType : Sound readType DerivesType := by
  intro cs t rest h
  exact sound_readTypeWithin (cs.length + 1) cs t rest h

end SourceModel.TypeExpr
