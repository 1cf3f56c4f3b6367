import SourceModel.Proofs.TypeExpr.Completeness

namespace SourceModel.TypeExpr
open Text

/-- Type parameters as they are declared or given. An identifier alone could be a parameter or a
type; it is a parameter, so that no text is derived in two ways. -/
inductive DerivesParameter : List Char → Generic → Prop
  | identifier {name : List Char} (hn : IsIdentifier name) :
      DerivesParameter name (.ofName (String.ofList name))
  | named {name gap gap' cs : List Char} {ts : List TypeRef} (hn : IsIdentifier name)
      (hg : IsSpacing gap) (ng : gap ≠ []) (hg' : IsSpacing gap') (ng' : gap' ≠ [])
      (bounds : DerivesBounds cs ts) :
      DerivesParameter (name ++ gap ++ BoundKeyword.extend.name.toList ++ gap' ++ cs)
        (.mk (some (String.ofList name)) ts .extend)
  | wildcard {cs : List Char} {g : Generic} (wildcard : DerivesWildcard cs g) :
      DerivesParameter cs g
  | type {cs : List Char} {t : TypeRef} (type : DerivesType cs t) (ne : ¬ IsIdentifier cs) :
      DerivesParameter cs (.ofType t)

theorem IsIdentifier.derivesType {name : List Char} (h : IsIdentifier name) :
    DerivesType name (.ofName (String.ofList name)) := by
  have plain := DerivesType.plain (.identifier h) .none
  rwa [List.append_nil] at plain

theorem DerivesType.exists_parameter {cs : List Char} {t : TypeRef} (h : DerivesType cs t) :
    ∃ g, DerivesParameter cs g := by
  by_cases single : IsIdentifier cs
  · exact ⟨_, .identifier single⟩
  · exact ⟨_, .type h single⟩

theorem sound_readIdentifier? {cs name rest : List Char}
    (h : readIdentifier? cs = some (name, rest)) : cs = name ++ rest ∧ IsIdentifier name := by
  refine ⟨(eq_of_readIdentifier? h).1, ?_⟩
  cases cs with
  | nil => cases h
  | cons c cs =>
    simp only [readIdentifier?] at h
    split at h
    · rename_i start
      obtain ⟨rfl, -⟩ := Prod.mk.inj (Option.some.inj h)
      exact .mk start fun d mem => List.mem_takeWhile_imp mem
    · cases h

theorem sound_readNamedParameter : Sound readNamedParameter DerivesParameter := by
  intro cs g rest h
  unfold readNamedParameter at h
  split at h
  · cases h
  · rename_i name behind named
    obtain ⟨rfl, hn⟩ := sound_readIdentifier? named
    split at h
    · cases h
    · split at h
      · rename_i remaining announced
        obtain ⟨gap, rfl, ng, hg⟩ := sound_readBoundKeyword? announced
        obtain ⟨ts, read, rfl⟩ := Reading.map_eq_done.mp h
        obtain ⟨text, rfl, gap', bounds, rfl, ng', hg', hb⟩ :=
          sound_readBounds sound_readType _ _ _ read
        exact ⟨_, by simp, .named hn hg ng hg' ng' hb⟩
      · obtain ⟨rfl, rfl⟩ := Reading.done.inj h
        exact ⟨name, rfl, .identifier hn⟩

theorem exists_derivation_of_readParameter {cs rest : List Char} {g : Generic}
    (h : readParameter cs = .done g rest) :
    ∃ text, cs = text ++ rest ∧ ∃ g', DerivesParameter text g' := by
  unfold readParameter at h
  split at h
  · split at h
    · obtain ⟨t, read, rfl⟩ := Reading.map_eq_done.mp h
      obtain ⟨text, rfl, derived⟩ := sound_readType _ _ _ read
      exact ⟨text, rfl, derived.exists_parameter⟩
    · obtain ⟨text, rfl, derived⟩ := sound_readNamedParameter _ _ _ h
      exact ⟨text, rfl, g, derived⟩
  · obtain ⟨text, rfl, wildcard⟩ := sound_readWildcard sound_readType _ _ _ h
    exact ⟨text, rfl, g, .wildcard wildcard⟩

theorem exists_of_readParameter {cs rest : List Char} {g : Generic}
    (h : readParameter cs = .done g rest) : ∃ text, cs = text ++ rest := by
  obtain ⟨text, same, -⟩ := exists_derivation_of_readParameter h
  exact ⟨text, same⟩

theorem IsIdentifier.readIdentifier?_append {name : List Char} (h : IsIdentifier name)
    (rest : List Char) :
    readIdentifier? (name ++ rest) =
      some (name ++ rest.takeWhile isNamePart, rest.dropWhile isNamePart) := by
  obtain ⟨start, parts⟩ := h
  simp [readIdentifier?, start, List.takeWhile_append_of_pos parts,
    List.dropWhile_append_of_pos parts]

theorem IsIdentifier.readIdentifier? {name : List Char} (h : IsIdentifier name) {rest : List Char}
    (ends : ∀ c ∈ rest.head?, isNamePart c = false) :
    readIdentifier? (name ++ rest) = some (name, rest) := by
  rw [h.readIdentifier?_append]
  cases rest with
  | nil => simp
  | cons c tail => simp [ends c rfl]

theorem IsIdentifier.readNamedParameter_missing {name rest tail : List Char} {c : Char}
    (h : IsIdentifier name) (skipped : skipSpacing rest = c :: tail)
    (mem : c ∈ ['.', '<', '[']) : readNamedParameter (name ++ rest) = .missing := by
  have stops : StopsAt ['.', '<', '['] rest := by
    intro d hd
    rw [skipped] at hd
    obtain rfl := Option.some.inj hd
    exact mem
  have named := h.readIdentifier? (stops.not_isNamePart (by decide))
  have ahead : ((skipSpacing rest).head?.any fun c => c == '.' || c == '<' || c == '[') = true := by
    simpa [skipped, or_assoc] using mem
  simp only [readNamedParameter, named, ahead, if_true]

theorem IsDimensions.eq_nil_or_opens {brackets : List Char} {n : Nat} (h : IsDimensions brackets n)
    (rest : List Char) : brackets = [] ∨ ∃ tail, skipSpacing (brackets ++ rest) = '[' :: tail := by
  cases h with
  | none => exact .inl rfl
  | pair hb hw others =>
    simp only [List.append_assoc, skipSpacing_append hb]
    exact .inr ⟨_, skipSpacing_cons (by decide) _⟩

theorem DerivesType.readNamedParameter {cs : List Char} {t : TypeRef} (h : DerivesType cs t)
    (ne : ¬ IsIdentifier cs) (rest : List Char) : readNamedParameter (cs ++ rest) = .missing := by
  have qualified {first others : List Char} (hf : IsIdentifier first) (more : List Char) :
      TypeExpr.readNamedParameter (first ++ '.' :: others ++ more) = .missing := by
    rw [List.append_assoc]
    exact hf.readNamedParameter_missing (skipSpacing_cons (by decide) _) (by simp)
  cases h with
  | plain hn hd =>
    cases hn with
    | qualified first others =>
      rw [List.append_assoc]
      exact qualified first _
    | identifier single =>
      rcases hd.eq_nil_or_opens rest with rfl | ⟨tail, opened⟩
      · exact absurd (by simpa using single) ne
      · rw [List.append_assoc]
        exact single.readNamedParameter_missing opened (by simp)
  | @generic name gap inner brackets gs n hn hg arguments hd =>
    simp only [List.append_assoc]
    cases hn with
    | qualified first others => exact qualified first _
    | identifier single =>
      have opened : Text.skipSpacing (gap ++ ('<' :: inner ++ ('>' :: brackets ++ rest))) =
          '<' :: inner ++ ('>' :: brackets ++ rest) := by
        rw [skipSpacing_append hg]
        exact skipSpacing_cons (by decide) _
      exact single.readNamedParameter_missing opened (by simp)

theorem DerivesBounds.readsList {cs : List Char} {ts : List TypeRef} :
    DerivesBounds cs ts → ∀ rest : List Char, StopsAt [',', '>'] rest →
      ReadsList readAmpersand? readType (cs ++ rest) ts rest
  | .last type, rest, stops => .lastBound (type.readType (stops.mono (by simp))) stops
  | .more type hb ha others, rest, stops => by
    simp only [List.append_assoc, List.cons_append]
    refine .moreBounds (type.readType ?_) hb ha (others.skipSpacing rest)
      (others.readsList rest stops)
    exact .append hb (stopsAt_cons (by simp) (by decide) _)

theorem IsIdentifier.readWildcard {name : List Char} (h : IsIdentifier name)
    (type : Reader TypeRef) (rest : List Char) : readWildcard type (name ++ rest) = .missing :=
  h.derivesType.readWildcard type rest

theorem IsIdentifier.readNamedParameter {name rest : List Char} (h : IsIdentifier name)
    (stops : StopsAt [',', '>'] rest) :
    TypeExpr.readNamedParameter (name ++ rest) = .done (.ofName (String.ofList name)) rest := by
  have named := h.readIdentifier? (stops.not_isNamePart (by decide))
  have ahead : ((skipSpacing rest).head?.any fun c => c == '.' || c == '<' || c == '[') = false := by
    cases skipped : skipSpacing rest with
    | nil => rfl
    | cons c tail =>
      have stop := stops c (by simp [skipped])
      rcases List.mem_cons.mp stop with rfl | stop
      · rfl
      · obtain rfl := List.mem_singleton.mp stop
        rfl
  simp [TypeExpr.readNamedParameter, named, ahead, stops.readBoundKeyword?]

theorem IsIdentifier.readNamedParameter_extends {name gap gap' : List Char}
    (h : IsIdentifier name) (hg : IsSpacing gap) (ng : gap ≠ []) (hg' : IsSpacing gap')
    (ng' : gap' ≠ []) (rest : List Char) :
    TypeExpr.readNamedParameter
        (name ++ (gap ++ (BoundKeyword.extend.name.toList ++ (gap' ++ rest)))) =
      (readBounds readType (gap' ++ rest)).map fun ts =>
        .mk (some (String.ofList name)) ts .extend := by
  have announced := readBoundKeyword?_append hg ng .extend hg' ng' rest
  have behind : skipSpacing (gap ++ (BoundKeyword.extend.name.toList ++ (gap' ++ rest))) =
      BoundKeyword.extend.name.toList ++ (gap' ++ rest) := by
    rw [skipSpacing_append hg, skipSpacing_keyword]
  have named : TypeExpr.readIdentifier?
      (name ++ (gap ++ (BoundKeyword.extend.name.toList ++ (gap' ++ rest)))) =
        some (name, gap ++ (BoundKeyword.extend.name.toList ++ (gap' ++ rest))) := by
    apply h.readIdentifier?
    intro c mem
    cases gap with
    | nil => exact absurd rfl ng
    | cons d gap =>
      obtain rfl := Option.some.inj mem
      exact isNamePart_of_isSpacing (hg d (by simp))
  have ahead : ((skipSpacing (gap ++ (BoundKeyword.extend.name.toList ++
      (gap' ++ rest)))).head?.any fun c => c == '.' || c == '<' || c == '[') = false := by
    rw [behind]
    rfl
  simp only [TypeExpr.readNamedParameter, named, ahead, announced, Bool.false_eq_true, if_false]

theorem DerivesWildcard.read {cs rest : List Char} {g : Generic} (h : DerivesWildcard cs g)
    (stops : StopsAt [',', '>'] rest) : readWildcard readType (cs ++ rest) = .done g rest := by
  cases h with
  | bare =>
    simp only [List.singleton_append, readWildcard, stops.readBoundKeyword?]
  | bounded hg ng keyword hg' ng' bounds =>
    have list := bounds.readsList rest stops
    have read := readWildcard_bounded hg ng keyword hg' ng' (bounds.skipSpacing rest) list
    simpa using read

theorem DerivesParameter.read {cs after : List Char} {g : Generic} (h : DerivesParameter cs g)
    (ha : IsSpacing after) : readParameter (cs ++ after) = .done g after := by
  have stops (stops : List Char) : StopsAt stops after := by
    rw [← List.append_nil after]
    exact (stopsAt_nil _).append ha
  cases h with
  | identifier hn =>
    simp only [readParameter, hn.readWildcard, hn.readNamedParameter (stops _)]
  | @named name gap gap' cs ts hn hg ng hg' ng' bounds =>
    have list := (bounds.readsList after (stops _)).readBounds hg' ng' (bounds.skipSpacing after)
    have read := hn.readNamedParameter_extends hg ng hg' ng' (cs ++ after)
    rw [list] at read
    simp only [List.append_assoc, readParameter, hn.readWildcard, read, Reading.map]
  | wildcard wildcard =>
    simp only [readParameter, wildcard.read (stops _)]
  | type type ne =>
    simp only [readParameter, type.readWildcard, type.readNamedParameter ne,
      type.readType (stops _), Reading.map]

theorem DerivesWildcard.exists_cons {cs : List Char} {g : Generic} (h : DerivesWildcard cs g) :
    ∃ tail, cs = '?' :: tail := by
  cases h with
  | bare => exact ⟨_, rfl⟩
  | bounded => exact ⟨_, rfl⟩

theorem DerivesParameter.exists_cons {cs : List Char} {g : Generic} (h : DerivesParameter cs g) :
    ∃ c tail, cs = c :: tail ∧ isBlank c = false := by
  cases h with
  | identifier hn =>
    obtain ⟨start, -⟩ := hn
    exact ⟨_, _, rfl, isBlank_of_isNameStart start⟩
  | named hn =>
    obtain ⟨start, -⟩ := hn
    exact ⟨_, _, rfl, isBlank_of_isNameStart start⟩
  | wildcard wildcard =>
    obtain ⟨tail, rfl⟩ := wildcard.exists_cons
    exact ⟨_, _, rfl, by decide⟩
  | type type =>
    obtain ⟨c, tail, rfl, start⟩ := type.exists_cons
    exact ⟨c, tail, rfl, isBlank_of_isNameStart start⟩

theorem DerivesParameter.skipSpacing {cs : List Char} {g : Generic} (h : DerivesParameter cs g)
    (rest : List Char) : skipSpacing (cs ++ rest) = cs ++ rest := by
  obtain ⟨c, tail, rfl, visible⟩ := h.exists_cons
  refine skipSpacing_cons (Bool.eq_false_iff.mpr fun spacing => ?_) _
  rw [isBlank_of_isSpacing spacing] at visible
  cases visible

/-- Reading takes exactly the texts that the grammar derives, with spacing around them. -/
theorem parseGeneric_eq_ok_iff (text : String) (g : Generic) :
    parseGeneric text = .ok g ↔
      ∃ before body after, text.toList = before ++ body ++ after ∧ IsSpacing before ∧
        DerivesParameter body g ∧ IsSpacing after := by
  constructor
  · intro parsed
    obtain ⟨-, rest, read, skipped⟩ := parseWhole_eq_ok_iff.mp parsed
    obtain ⟨body, same, g', derived⟩ := exists_derivation_of_readParameter read
    obtain ⟨before, eq, hb⟩ := exists_spacing text.toList
    obtain ⟨after, eq', ha⟩ := exists_spacing rest
    obtain rfl : rest = after := by rwa [skipped, List.append_nil] at eq'
    -- Only spacing follows, so the tree is the one that was read.
    rw [same, derived.read ha] at read
    obtain ⟨rfl, -⟩ := Reading.done.inj read
    exact ⟨before, body, rest, by rw [List.append_assoc, ← same, ← eq], hb, derived, ha⟩
  · rintro ⟨before, body, after, eq, hb, derived, ha⟩
    refine parseWhole_eq_ok_iff.mpr ⟨?_, after, ?_, skipSpacing_eq_nil_of_isSpacing ha⟩
    · obtain ⟨c, tail, rfl, visible⟩ := derived.exists_cons
      simp [eq, visible]
    · rw [eq, List.append_assoc, skipSpacing_append hb, derived.skipSpacing, derived.read ha]

end SourceModel.TypeExpr
