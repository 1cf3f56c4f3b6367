import SourceModel.Proofs.PathComponents

/-!
# Followed paths

Where a path leads is said by its components alone (`follow`); the file system only decides whether
one gets there, which takes a directory before each component (`walk_eq_ok_iff`).
-/

namespace SourceModel.Storage

def Component.next (location : Location) : Component → Location
  | .root => []
  | .here => location
  | .up => location.dropLast
  | .name text => location ++ [text]

def Component.Fits : Component → Prop
  | .name text => text.utf8ByteSize ≤ nameLimit
  | _ => True

def follow (start : Location) (cs : List Component) : Location := cs.foldl Component.next start

theorem follow_append (start : Location) (before after : List Component) :
    follow start (before ++ after) = follow (follow start before) after := List.foldl_append

theorem prefix_follow {cs : List Component} (inside : ∀ c ∈ cs, c.staysInside = true)
    (start : Location) : start <+: follow start cs := by
  induction cs generalizing start with
  | nil => exact List.prefix_rfl
  | cons c rest ih =>
    have others := ih (fun c' mem => inside c' (List.mem_cons_of_mem _ mem)) (c.next start)
    refine List.IsPrefix.trans ?_ others
    cases c with
    | here => exact List.prefix_rfl
    | name name => exact List.prefix_append _ _
    | root => exact absurd (inside .root List.mem_cons_self) (by decide)
    | up => exact absurd (inside .up List.mem_cons_self) (by decide)

namespace FileSystem

def Passes (fs : FileSystem) (start : Location) (cs : List Component) : Prop :=
  ∀ before c after, cs = before ++ c :: after →
    fs.at? (follow start before) = some .directory ∧ c.Fits

theorem passes_nil (fs : FileSystem) (start : Location) : fs.Passes start [] := by
  intro before c after split
  simp at split

theorem passes_cons {fs : FileSystem} {start : Location} {c : Component} {rest : List Component} :
    fs.Passes start (c :: rest) ↔
      fs.at? start = some .directory ∧ c.Fits ∧ fs.Passes (c.next start) rest := by
  constructor
  · intro passes
    obtain ⟨directory, fits⟩ := passes [] c rest rfl
    refine ⟨directory, fits, fun before c' after split => ?_⟩
    exact passes (c :: before) c' after (by rw [split, List.cons_append])
  · rintro ⟨directory, fits, passes⟩ before c' after split
    cases before with
    | nil =>
      obtain ⟨rfl, rfl⟩ := List.cons.inj split
      exact ⟨directory, fits⟩
    | cons first before =>
      obtain ⟨rfl, others⟩ := List.cons.inj split
      exact passes before c' after others

theorem walk_eq_ok_iff {fs : FileSystem} {start location : Location} {cs : List Component} :
    fs.walk start cs = .ok location ↔ fs.Passes start cs ∧ location = follow start cs := by
  induction cs generalizing start with
  | nil =>
    rw [walk, Except.ok.injEq, eq_comm]
    exact ⟨fun same => ⟨passes_nil _ _, same⟩, fun ended => ended.2⟩
  | cons c rest ih =>
    rw [passes_cons]
    unfold walk
    cases found : fs.at? start with
    | none => simp
    | some entry =>
      cases entry with
      | file content => simp
      | directory =>
        cases c with
        | name name =>
          dsimp only
          split
          · rename_i long
            simp [Component.Fits, Nat.not_le.mpr long]
          · rename_i short
            simp [Component.Fits, Nat.not_lt.mp short, ih, follow, Component.next]
        | root => simp [ih, follow, Component.next, Component.Fits]
        | here => simp [ih, follow, Component.next, Component.Fits]
        | up => simp [ih, follow, Component.next, Component.Fits]

def destination (fs : FileSystem) (path : String) : Location :=
  follow fs.workingDirectory (components path)

theorem locate_eq_ok_iff {fs : FileSystem} {path : String} {location : Location} :
    fs.locate path = .ok location ↔ checkPath path = .ok () ∧
      fs.Passes fs.workingDirectory (components path) ∧ location = fs.destination path := by
  unfold locate
  cases checked : checkPath path with
  | error e => simp
  | ok _ => simp [walk_eq_ok_iff, destination]

theorem isSome_of_contains {fs : FileSystem} {path : String} (found : fs.contains path = true) :
    (fs.at? (fs.destination path)).isSome = true := by
  unfold contains lookup at found
  cases located : fs.locate path with
  | error e =>
    rw [located] at found
    cases found
  | ok location =>
    obtain ⟨-, -, rfl⟩ := locate_eq_ok_iff.mp located
    rw [located] at found
    cases entry : fs.at? (fs.destination path) with
    | none => simp [entry, Except.isOk, Except.toBool] at found
    | some _ => rfl

theorem contains_of_isSome {fs : FileSystem} {path : String} (checked : checkPath path = .ok ())
    (passes : fs.Passes fs.workingDirectory (components path))
    (plain : endsAsDirectory path = false)
    (found : (fs.at? (fs.destination path)).isSome = true) : fs.contains path = true := by
  have located : fs.locate path = .ok (fs.destination path) :=
    locate_eq_ok_iff.mpr ⟨checked, passes, rfl⟩
  unfold contains lookup
  rw [located]
  cases there : fs.at? (fs.destination path) with
  | none =>
    rw [there] at found
    cases found
  | some entry =>
    cases entry with
    | directory => simp [there, Except.isOk, Except.toBool]
    | file content => simp [there, plain, Except.isOk, Except.toBool]

/-! ## Trees -/

structure IsTree (fs : FileSystem) : Prop where
  parent : ∀ location, (fs.at? location).isSome → fs.at? location.dropLast = some .directory
  working : fs.at? fs.workingDirectory = some .directory

theorem at?_nil (fs : FileSystem) : fs.at? [] = some .directory := if_pos rfl

theorem at?_put_self {fs : FileSystem} {location : Location} (ne : location ≠ []) (entry : Entry) :
    (fs.put location entry).at? location = some entry := by
  rw [at?_put, if_neg ne, if_pos rfl]

theorem at?_put_of_ne {fs : FileSystem} {location other : Location} (ne : other ≠ location)
    (entry : Entry) : (fs.put location entry).at? other = fs.at? other := by
  rw [at?_put, if_neg (Ne.symm ne)]
  split
  · rename_i top
    rw [top, at?_nil]
  · rfl

namespace IsTree

variable {fs : FileSystem}

theorem empty : IsTree {} where
  parent location found := by
    by_cases top : location = []
    · rw [top, List.dropLast_nil, at?_nil]
    · rw [at?, if_neg top] at found
      cases found
  working := at?_nil _

theorem put (tree : fs.IsTree) {location : Location}
    (free : fs.at? location ≠ some .directory)
    (inside : fs.at? location.dropLast = some .directory) (entry : Entry) :
    (fs.put location entry).IsTree := by
  have keeps : ∀ other, fs.at? other = some .directory →
      (fs.put location entry).at? other = some .directory := by
    intro other directory
    rw [at?_put_of_ne _ entry, directory]
    rintro rfl
    exact free directory
  refine ⟨fun other found => ?_, keeps _ tree.working⟩
  by_cases same : other = location
  · rw [same]
    exact keeps _ inside
  · rw [at?_put_of_ne same] at found
    exact keeps _ (tree.parent other found)

theorem inside_of_passes (tree : fs.IsTree) {cs : List Component} {start : Location}
    (inside : fs.at? start.dropLast = some .directory) (passes : fs.Passes start cs) :
    fs.at? (follow start cs).dropLast = some .directory := by
  induction cs generalizing start with
  | nil => exact inside
  | cons c rest ih =>
    obtain ⟨directory, -, passes⟩ := passes_cons.mp passes
    refine ih ?_ passes
    cases c with
    | root => exact at?_nil fs
    | here => exact inside
    | up => exact tree.parent start.dropLast (by rw [inside, Option.isSome_some])
    | name name =>
      rw [Component.next, List.dropLast_concat]
      exact directory

theorem inside_destination (tree : fs.IsTree) {path : String}
    (passes : fs.Passes fs.workingDirectory (components path)) :
    fs.at? (fs.destination path).dropLast = some .directory :=
  tree.inside_of_passes (tree.parent _ (by rw [tree.working, Option.isSome_some])) passes

end IsTree

/-! ## Making directories -/

/-- The second file system has directories more than the first, at some of the locations, and
differs in nothing else. -/
structure AddsDirectories (fs made : FileSystem) (places : Location → Prop) : Prop where
  workingDirectory : made.workingDirectory = fs.workingDirectory
  isTree : fs.IsTree → made.IsTree
  at? : ∀ location, made.at? location = fs.at? location ∨
    fs.at? location = none ∧ made.at? location = some .directory ∧ places location

namespace AddsDirectories

variable {fs made later : FileSystem} {places others : Location → Prop}

theorem refl (fs : FileSystem) (places : Location → Prop) : fs.AddsDirectories fs places :=
  ⟨rfl, id, fun _ => .inl rfl⟩

theorem mono (adds : fs.AddsDirectories made places)
    (weaker : ∀ location, places location → others location) : fs.AddsDirectories made others := by
  refine ⟨adds.workingDirectory, adds.isTree, fun location => ?_⟩
  rcases adds.at? location with same | ⟨free, directory, place⟩
  · exact .inl same
  · exact .inr ⟨free, directory, weaker location place⟩

theorem trans (first : fs.AddsDirectories made places)
    (second : made.AddsDirectories later places) : fs.AddsDirectories later places := by
  refine ⟨second.workingDirectory.trans first.workingDirectory, second.isTree ∘ first.isTree,
    fun location => ?_⟩
  rcases second.at? location with same | ⟨free, directory, place⟩
  · rw [same]
    exact first.at? location
  · rcases first.at? location with same | ⟨-, added, -⟩
    · exact .inr ⟨same ▸ free, directory, place⟩
    · cases free.symm.trans added

theorem at?_of_eq_some (adds : fs.AddsDirectories made places) {location : Location} {entry : Entry}
    (found : fs.at? location = some entry) : made.at? location = some entry := by
  rcases adds.at? location with same | ⟨free, -, -⟩
  · rw [same, found]
  · cases free.symm.trans found

theorem file_iff (adds : fs.AddsDirectories made places) (location : Location) (content : Content) :
    made.at? location = some (.file content) ↔ fs.at? location = some (.file content) := by
  rcases adds.at? location with same | ⟨free, directory, -⟩
  · rw [same]
  · simp [free, directory]

theorem destination (adds : fs.AddsDirectories made places) (path : String) :
    made.destination path = fs.destination path := by
  rw [FileSystem.destination, FileSystem.destination, adds.workingDirectory]

end AddsDirectories

theorem createDirectory_adds {fs made : FileSystem} {path : String}
    (created : fs.createDirectory path = .ok made) :
    fs.AddsDirectories made (· = fs.destination path) := by
  unfold createDirectory at created
  cases located : fs.locate path with
  | error e =>
    rw [located] at created
    cases created
  | ok location =>
    obtain ⟨-, passes, rfl⟩ := locate_eq_ok_iff.mp located
    rw [located] at created
    dsimp only at created
    split at created
    · cases created
    · rename_i free
      rw [Option.not_isSome_iff_eq_none] at free
      obtain rfl := Except.ok.inj created
      refine ⟨rfl, fun tree => tree.put (by simp [free]) (tree.inside_destination passes) _,
        fun other => ?_⟩
      by_cases same : other = fs.destination path
      · subst same
        have ne : fs.destination path ≠ [] := by
          intro top
          rw [top, at?_nil] at free
          cases free
        exact .inr ⟨free, at?_put_self ne _, rfl⟩
      · exact .inl (at?_put_of_ne same _)

def OnTheWay (start : Location) (cs : List Component) (location : Location) : Prop :=
  ∃ before, before ≠ [] ∧ before <+: cs ∧ location = follow start before

theorem OnTheWay.of_isPrefix {start location : Location} {cs others : List Component}
    (place : OnTheWay start cs location) (isPrefix : cs <+: others) :
    OnTheWay start others location := by
  obtain ⟨before, ne, within, rfl⟩ := place
  exact ⟨before, ne, within.trans isPrefix, rfl⟩

theorem createDirectory_adds_pathOf {fs made : FileSystem} {cs : List Component}
    (orderly : Orderly cs) (ne : cs ≠ []) (created : fs.createDirectory (pathOf cs) = .ok made) :
    fs.AddsDirectories made (OnTheWay fs.workingDirectory cs) :=
  (createDirectory_adds created).mono fun _ place =>
    ⟨cs, ne, List.prefix_rfl, by rw [place, destination, components_pathOf orderly]⟩

theorem createBelow_adds (reversed : List Component) (fs : FileSystem)
    (orderly : Orderly reversed.reverse) :
    fs.AddsDirectories (createBelow reversed fs).2
      (OnTheWay fs.workingDirectory reversed.reverse) := by
  -- From the last component to the first, as `createBelow` tries them.
  induction reversed with
  | nil => exact .refl fs _
  | cons last outer ih =>
    have isPrefix : outer.reverse <+: (last :: outer).reverse := by
      rw [List.reverse_cons]
      exact List.prefix_append _ _
    have ne : (last :: outer).reverse ≠ [] := by simp
    have outside : fs.AddsDirectories (createBelow outer fs).2
        (OnTheWay fs.workingDirectory (last :: outer).reverse) :=
      (ih (orderly.of_isPrefix isPrefix)).mono fun location place => place.of_isPrefix isPrefix
    simp only [createBelow]
    cases direct : fs.createDirectory (pathOf (last :: outer).reverse) with
    | ok made => exact createDirectory_adds_pathOf orderly ne direct
    | error e =>
      dsimp only
      split
      · rcases below : createBelow outer fs with ⟨outcome, between⟩
        rw [below] at outside
        cases outcome with
        | error e => exact outside
        | ok _ =>
          dsimp only
          cases again : between.createDirectory (pathOf (last :: outer).reverse) with
          | ok made =>
            have added := createDirectory_adds_pathOf orderly ne again
            rw [outside.workingDirectory] at added
            exact outside.trans added
          | error e =>
            dsimp only
            split <;> exact outside
      · split <;> exact .refl fs _

theorem createDirectories_adds (fs : FileSystem) (path : String) :
    fs.AddsDirectories (fs.createDirectories path).2
      (OnTheWay fs.workingDirectory (components path)) := by
  have orderly : Orderly (components path).reverse.reverse := by
    rw [List.reverse_reverse]
    exact orderly_components path
  have adds := createBelow_adds (components path).reverse fs orderly
  rwa [List.reverse_reverse] at adds

/-! ## Paths with steps up -/

/-- Every step up in the path is taken from a directory. -/
def ClimbsDirectories (fs : FileSystem) (path : String) : Prop :=
  ∀ before after, components path = before ++ .up :: after →
    fs.at? (follow fs.workingDirectory before) = some .directory

theorem ClimbsDirectories.joinPath {fs : FileSystem} {path name : String}
    (climbs : fs.ClimbsDirectories path) (inner : isInnerName name = true) :
    fs.ClimbsDirectories (joinPath path name) := by
  obtain ⟨inside, joined, stays⟩ := exists_components_joinPath inner path
  intro before after split
  rw [joined, List.append_eq_append_iff] at split
  rcases split with ⟨between, -, split⟩ | ⟨between, split, others⟩
  · have up : Component.up ∈ inside := by
      rw [split]
      exact List.mem_append_right _ List.mem_cons_self
    exact absurd (stays _ up) (by decide)
  · cases between with
    | nil =>
      have up : Component.up ∈ inside := by
        rw [← List.nil_append inside, ← others]
        exact List.mem_cons_self
      exact absurd (stays _ up) (by decide)
    | cons c between =>
      obtain ⟨rfl, -⟩ := List.cons.inj others
      exact climbs before between split

section Climbing

variable {fs : FileSystem} {path : String}

theorem IsTree.isSome_before (tree : fs.IsTree) (climbs : fs.ClimbsDirectories path)
    (before between after : List Component) (split : components path = before ++ between ++ after)
    (found : (fs.at? (follow fs.workingDirectory (before ++ between))).isSome) :
    (fs.at? (follow fs.workingDirectory before)).isSome := by
  -- A name leads on from a directory because the file system is a tree, a step up because it is
  -- taken from a directory; the root stands only in front, where the working directory is.
  induction between generalizing before with
  | nil => rwa [List.append_nil] at found
  | cons c rest ih =>
    have next := ih (before ++ [c]) (by simp [split]) (by simpa using found)
    rw [follow_append] at next
    cases c with
    | here => exact next
    | up => rw [climbs before (rest ++ after) (by simp [split]), Option.isSome_some]
    | name text =>
      have inside := tree.parent _ next
      rw [show follow (follow fs.workingDirectory before) [.name text] =
        follow fs.workingDirectory before ++ [text] from rfl, List.dropLast_concat] at inside
      rw [inside, Option.isSome_some]
    | root =>
      cases before with
      | nil =>
        rw [show follow fs.workingDirectory [] = fs.workingDirectory from rfl, tree.working,
          Option.isSome_some]
      | cons first before =>
        have orderly := orderly_components path
        rw [split, List.append_assoc] at orderly
        exact absurd (orderly.isPiece_of_append (List.cons_ne_nil _ _) .root (by simp))
          Component.not_isPiece_root

theorem IsTree.isSome_of_isPrefix (tree : fs.IsTree) (climbs : fs.ClimbsDirectories path)
    {before : List Component} (isPrefix : before <+: components path)
    (found : (fs.at? (fs.destination path)).isSome) :
    (fs.at? (follow fs.workingDirectory before)).isSome := by
  obtain ⟨after, split⟩ := isPrefix
  refine tree.isSome_before climbs before after [] (by rw [List.append_nil, split]) ?_
  rw [split]
  exact found

theorem IsTree.isPrefix_destination (tree : fs.IsTree) (climbs : fs.ClimbsDirectories path)
    {location : Location} (place : OnTheWay fs.workingDirectory (components path) location)
    (free : fs.at? location = none) : location <+: fs.destination path := by
  obtain ⟨before, ne, ⟨after, split⟩, rfl⟩ := place
  rw [destination, ← split, follow_append]
  refine prefix_follow (fun c mem => ?_) _
  have orderly := orderly_components path
  rw [← split] at orderly
  have piece := orderly.isPiece_of_append ne c mem
  cases c with
  | name text => rfl
  | root => exact absurd piece Component.not_isPiece_root
  | here => exact absurd piece Component.not_isPiece_here
  | up =>
    obtain ⟨first, last, rfl⟩ := List.append_of_mem mem
    have climbed := climbs (before ++ first) last (by rw [← split, List.append_assoc])
    have there := tree.isSome_before climbs before first (.up :: last)
      (by rw [← split, List.append_assoc]) (by rw [climbed, Option.isSome_some])
    rw [free] at there
    cases there

theorem AddsDirectories.passes {made : FileSystem} {places : Location → Prop}
    (adds : fs.AddsDirectories made places) (tree : fs.IsTree) (climbs : fs.ClimbsDirectories path)
    (passes : made.Passes made.workingDirectory (components path))
    (found : (fs.at? (fs.destination path)).isSome) :
    fs.Passes fs.workingDirectory (components path) := by
  intro before c after split
  have there := tree.isSome_of_isPrefix climbs ⟨c :: after, split.symm⟩ found
  obtain ⟨directory, fits⟩ := passes before c after split
  rw [adds.workingDirectory] at directory
  refine ⟨?_, fits⟩
  rcases adds.at? (follow fs.workingDirectory before) with same | ⟨free, -, -⟩
  · rw [← same, directory]
  · rw [free] at there
    cases there

end Climbing

/-! ## Writing files -/

theorem write_eq_ok {fs written : FileSystem} {path text : String}
    (ended : fs.write path text = .ok written) :
    checkPath path = .ok () ∧ fs.Passes fs.workingDirectory (components path) ∧
      endsAsDirectory path = false ∧ fs.at? (fs.destination path) ≠ some .directory ∧
      written = fs.put (fs.destination path) (.file (.text text)) := by
  unfold write writeContent at ended
  split at ended
  · split at ended <;> cases ended
  · rename_i plain
    cases located : fs.locate path with
    | error e =>
      rw [located] at ended
      cases ended
    | ok location =>
      obtain ⟨checked, passes, rfl⟩ := locate_eq_ok_iff.mp located
      rw [located] at ended
      dsimp only at ended
      have noDot : endsInDot path = false ∧ fs.at? (fs.destination path) ≠ some .directory ∧
          written = fs.put (fs.destination path) (.file (.text text)) := by
        cases found : fs.at? (fs.destination path) with
        | none =>
          rw [found] at ended
          dsimp only at ended
          split at ended
          · cases ended
          · rename_i noDot
            exact ⟨Bool.eq_false_iff.mpr noDot, by simp, (Except.ok.inj ended).symm⟩
        | some entry =>
          cases entry with
          | directory =>
            rw [found] at ended
            cases ended
          | file content =>
            rw [found] at ended
            dsimp only at ended
            split at ended
            · cases ended
            · rename_i noDot
              exact ⟨Bool.eq_false_iff.mpr noDot, by simp, (Except.ok.inj ended).symm⟩
      obtain ⟨noDot, free, rfl⟩ := noDot
      refine ⟨checked, passes, ?_, free, rfl⟩
      simpa [noDot] using plain

theorem AddsDirectories.write_eq_ok {fs made written : FileSystem} {places : Location → Prop}
    (adds : fs.AddsDirectories made places) {path text : String}
    (ended : made.write path text = .ok written) :
    checkPath path = .ok () ∧ made.Passes made.workingDirectory (components path) ∧
      endsAsDirectory path = false ∧ made.at? (fs.destination path) ≠ some .directory ∧
      written = made.put (fs.destination path) (.file (.text text)) := by
  rw [← adds.destination path]
  exact FileSystem.write_eq_ok ended

end FileSystem

end SourceModel.Storage
