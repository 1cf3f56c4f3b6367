import SourceModel.Formatting
import SourceModel.Text.Blank

/-!
# Texts made of rows

A stacked text is made of rows without line breaks, with line ends of a certain kind between them.
Its lines are its rows, without the last one if that is empty (`Stacked.lines`), and texts that are
set below one another stack their rows (`Stacked.append`).
-/

namespace SourceModel.Text

def Spelled (allowed : Char → Prop) (text : String) : Prop := ∀ c ∈ text.toList, allowed c

instance {allowed : Char → Prop} [DecidablePred allowed] (text : String) :
    Decidable (Spelled allowed text) :=
  List.decidableBAll allowed text.toList

abbrev Unbroken : String → Prop := Spelled fun c => c ≠ '\n' ∧ c ≠ '\r'

abbrev ReturnFree : String → Prop := Spelled fun c => c ≠ '\r'

abbrev Feedless : String → Prop := Spelled fun c => c ≠ '\n'

namespace Spelled

variable {allowed : Char → Prop} {a b : String}

theorem empty : Spelled allowed "" := by
  intro c mem
  cases mem

theorem append (first : Spelled allowed a) (second : Spelled allowed b) :
    Spelled allowed (a ++ b) := by
  intro c mem
  rw [String.toList_append, List.mem_append] at mem
  exact mem.elim (first c) (second c)

theorem joinWith {separator : String} (spelled : Spelled allowed separator) {texts : List String}
    (each : ∀ text ∈ texts, Spelled allowed text) : Spelled allowed (joinWith separator texts) := by
  induction texts with
  | nil => exact empty
  | cons text rest ih =>
    have first := each text List.mem_cons_self
    have others := ih fun text mem => each text (List.mem_cons_of_mem _ mem)
    cases rest with
    | nil => exact first
    | cons next rest => exact (first.append spelled).append others

theorem repeated (spelled : Spelled allowed a) (count : Nat) :
    Spelled allowed (repeated a count) := by
  induction count with
  | zero => exact empty
  | succ count ih => exact spelled.append ih

end Spelled

/-- The text is empty or its last character is no white space. -/
def EndsVisible (text : String) : Prop := ∀ c ∈ text.toList.getLast?, isBlank c = false

instance : DecidablePred EndsVisible :=
  fun text => Option.decidableForallMem text.toList.getLast?

theorem EndsVisible.append {text : String} (visible : EndsVisible text) (some : text ≠ "")
    (before : String) : EndsVisible (before ++ text) := by
  have last : text.toList.getLast?.isSome := by simpa using some
  intro c mem
  apply visible
  rwa [String.toList_append, List.getLast?_append, Option.or_of_isSome last] at mem

theorem endsVisible_trimEnd (text : String) : EndsVisible (trimEnd text) := by
  intro c mem
  have first := List.head?_dropWhile_not isBlank text.toList.reverse
  simp only [trimEnd, trimEndChars, String.toList_ofList, List.getLast?_reverse] at mem
  simpa [Option.mem_def.mp mem] using first

def IsLineEnd (text : String) : Prop := text = "\n" ∨ text = "\r\n"

theorem charLines_feedless {cs : List Char} (feedless : ∀ c ∈ cs, c ≠ '\n') :
    charLines cs = if cs = [] then [] else [cs] := by
  induction cs with
  | nil => rfl
  | cons c rest ih =>
    obtain ⟨first, others⟩ := List.forall_mem_cons.mp feedless
    rw [charLines, ih others]
    · cases rest <;> rfl
    · exact first
    · rintro tail - rfl
      exact others '\n' List.mem_cons_self rfl

def withoutReturn (cs : List Char) : List Char :=
  if cs.getLast? = some '\r' then cs.dropLast else cs

theorem withoutReturn_append_return (cs : List Char) : withoutReturn (cs ++ ['\r']) = cs := by
  simp [withoutReturn]

theorem withoutReturn_of_getLast?_ne {cs : List Char} (last : cs.getLast? ≠ some '\r') :
    withoutReturn cs = cs :=
  if_neg last

theorem charLines_feed {cs : List Char} (feedless : ∀ c ∈ cs, c ≠ '\n') (rest : List Char) :
    charLines (cs ++ '\n' :: rest) = withoutReturn cs :: charLines rest := by
  induction cs with
  | nil => rfl
  | cons c cs ih =>
    obtain ⟨first, others⟩ := List.forall_mem_cons.mp feedless
    cases cs with
    | nil =>
      by_cases isReturn : c = '\r'
      · rw [isReturn]
        rfl
      · rw [withoutReturn_of_getLast?_ne (by simpa using isReturn), List.cons_append,
          List.nil_append, charLines]
        · rfl
        · exact first
        · exact fun _ same => absurd same isReturn
    | cons d cs =>
      have below := ih others
      rw [List.cons_append, charLines, below]
      · simp only [withoutReturn, List.getLast?_cons_cons, List.dropLast_cons_cons]
        split <;> rfl
      · exact first
      · intro tail _ same
        exact others d List.mem_cons_self (List.cons.inj same).1

theorem charLines_line {cs : List Char} (feedless : ∀ c ∈ cs, c ≠ '\n')
    (last : cs.getLast? ≠ some '\r') {ending : String} (isEnd : IsLineEnd ending)
    (rest : List Char) :
    charLines (cs ++ (ending.toList ++ rest)) = cs :: charLines rest := by
  rcases isEnd with rfl | rfl
  · have split := charLines_feed feedless rest
    rwa [withoutReturn_of_getLast?_ne last] at split
  · have feedless' : ∀ c ∈ cs ++ ['\r'], c ≠ '\n' :=
      List.forall_mem_append.mpr ⟨feedless, List.forall_mem_singleton.mpr (by decide)⟩
    have split := charLines_feed feedless' rest
    rwa [withoutReturn_append_return, List.append_assoc] at split

theorem charLines_unbroken {cs : List Char} (unbroken : ∀ c ∈ cs, c ≠ '\n' ∧ c ≠ '\r') :
    charLines cs = if cs = [] then [] else [cs] :=
  charLines_feedless fun c mem => (unbroken c mem).1

theorem charLines_append_lineEnd {cs : List Char} (unbroken : ∀ c ∈ cs, c ≠ '\n' ∧ c ≠ '\r')
    {ending : String} (isEnd : IsLineEnd ending) (rest : List Char) :
    charLines (cs ++ (ending.toList ++ rest)) = cs :: charLines rest :=
  charLines_line (fun c mem => (unbroken c mem).1)
    (fun same => (unbroken '\r' (List.mem_of_getLast? same)).2 rfl) isEnd rest

def trimLast {α : Type} (isEmpty : α → Bool) : List α → List α
  | [] => []
  | [a] => if isEmpty a then [] else [a]
  | a :: next :: rest => a :: trimLast isEmpty (next :: rest)

theorem trimLast_map {α β : Type} {f : α → β} {isEmpty : β → Bool} (items : List α) :
    trimLast isEmpty (items.map f) = (trimLast (fun a => isEmpty (f a)) items).map f := by
  induction items with
  | nil => rfl
  | cons a rest ih =>
    cases rest with
    | nil =>
      simp only [List.map_cons, List.map_nil, trimLast]
      split <;> rfl
    | cons next rest => exact congrArg (f a :: ·) ih

theorem mem_of_mem_trimLast {α : Type} {isEmpty : α → Bool} {items : List α} {a : α}
    (mem : a ∈ trimLast isEmpty items) : a ∈ items := by
  induction items with
  | nil => cases mem
  | cons first rest ih =>
    cases rest with
    | nil =>
      rw [trimLast] at mem
      split at mem
      · cases mem
      · exact mem
    | cons next rest =>
      rcases List.mem_cons.mp mem with rfl | mem
      · exact List.mem_cons_self
      · exact List.mem_cons_of_mem _ (ih mem)

theorem mem_trimLast_or_isEmpty {α : Type} {isEmpty : α → Bool} {items : List α} {a : α}
    (mem : a ∈ items) : a ∈ trimLast isEmpty items ∨ isEmpty a = true := by
  induction items with
  | nil => cases mem
  | cons first rest ih =>
    cases rest with
    | nil =>
      obtain rfl := List.mem_singleton.mp mem
      by_cases empty : isEmpty a = true
      · exact .inr empty
      · exact .inl (by simp [trimLast, empty])
    | cons next rest =>
      rcases List.mem_cons.mp mem with rfl | mem
      · exact .inl List.mem_cons_self
      · exact (ih mem).imp_left (List.mem_cons_of_mem _)

theorem trimLast_append_singleton {α : Type} (isEmpty : α → Bool) (items : List α) (last : α) :
    trimLast isEmpty (items ++ [last]) = if isEmpty last then items else items ++ [last] := by
  induction items with
  | nil => rfl
  | cons a rest ih =>
    have below : trimLast isEmpty (a :: (rest ++ [last])) =
        a :: trimLast isEmpty (rest ++ [last]) := by
      cases rest <;> rfl
    rw [List.cons_append, below, ih]
    split <;> rfl

theorem joinWith_append_separator {separator : String} {texts : List String}
    (some : texts ≠ []) :
    joinWith separator texts ++ separator =
      joinWith "" (texts.map fun text => text ++ separator) := by
  induction texts with
  | nil => exact absurd rfl some
  | cons text rest ih =>
    cases rest with
    | nil => rfl
    | cons next rest =>
      have others := ih (List.cons_ne_nil _ _)
      simp only [joinWith, List.map_cons, String.append_assoc, String.append_empty] at others ⊢
      rw [others]

/-- The text is made of these rows, with line ends of the kind between them. -/
inductive Stacked (ends : String → Prop) : List String → String → Prop
  | single {row : String} : Unbroken row → Stacked ends [row] row
  | cons {row ending text : String} {rows : List String} :
      Unbroken row → ends ending → Stacked ends rows text →
      Stacked ends (row :: rows) (row ++ ending ++ text)

namespace Stacked

variable {ends : String → Prop} {rows rows' : List String} {text text' ending : String}

theorem mono {ends' : String → Prop} (weaker : ∀ ending, ends ending → ends' ending)
    (stacked : Stacked ends rows text) : Stacked ends' rows text := by
  induction stacked with
  | single unbroken => exact .single unbroken
  | cons unbroken isEnd _ ih => exact .cons unbroken (weaker _ isEnd) ih

theorem rows_ne_nil (stacked : Stacked ends rows text) : rows ≠ [] := by
  cases stacked <;> simp

theorem unbroken (stacked : Stacked ends rows text) : ∀ row ∈ rows, Unbroken row := by
  induction stacked with
  | single unbroken => simpa using unbroken
  | cons unbroken _ _ ih => simpa using ⟨unbroken, ih⟩

theorem append (above : Stacked ends rows text) (isEnd : ends ending)
    (below : Stacked ends rows' text') :
    Stacked ends (rows ++ rows') (text ++ ending ++ text') := by
  induction above with
  | single unbroken => exact .cons unbroken isEnd below
  | cons unbroken isEnd' _ ih =>
    simp only [String.append_assoc] at ih ⊢
    rw [← String.append_assoc]
    exact .cons unbroken isEnd' ih

theorem prepend {row : String} (unbroken : Unbroken row) (stacked : Stacked ends rows text) :
    ∃ rows', Stacked ends rows' (row ++ text) := by
  cases stacked with
  | single unbroken' => exact ⟨_, .single (unbroken.append unbroken')⟩
  | cons unbroken' isEnd below =>
    rw [← String.append_assoc, ← String.append_assoc]
    exact ⟨_, .cons (unbroken.append unbroken') isEnd below⟩

theorem exists_of_returnFree (free : ReturnFree text) (feed : ends "\n") :
    ∃ rows, Stacked ends rows text := by
  obtain ⟨cs, rfl⟩ : ∃ cs, text = String.ofList cs := ⟨text.toList, by simp⟩
  induction cs with
  | nil => exact ⟨_, .single Spelled.empty⟩
  | cons c cs ih =>
    obtain ⟨rows, stacked⟩ := ih fun c mem => free c (by simp_all)
    have text : String.ofList (c :: cs) = String.ofList [c] ++ String.ofList cs := by
      rw [← String.ofList_append]
      rfl
    rw [text]
    -- A line feed closes an empty row above; any other character goes into the first row.
    by_cases isFeed : c = '\n'
    · subst isFeed
      have below : Stacked ends ("" :: rows) ("" ++ "\n" ++ String.ofList cs) :=
        .cons Spelled.empty feed stacked
      exact ⟨_, below⟩
    · have first : Unbroken (String.ofList [c]) := by
        intro d mem
        obtain rfl : d = c := by simpa using mem
        exact ⟨isFeed, free d (by simp)⟩
      exact stacked.prepend first

theorem lines (stacked : Stacked IsLineEnd rows text) :
    lines text = trimLast (fun row => row = "") rows := by
  induction stacked with
  | @single row unbroken =>
    rw [Text.lines, charLines_unbroken unbroken, trimLast]
    by_cases empty : row = ""
    · simp [empty]
    · simp [empty]
  | @cons row ending text rows unbroken isEnd below ih =>
    obtain ⟨next, rest, rfl⟩ := List.exists_cons_of_ne_nil below.rows_ne_nil
    rw [Text.lines, String.append_assoc, String.toList_append, String.toList_append,
      charLines_append_lineEnd unbroken isEnd, List.map_cons, trimLast, ← ih, Text.lines]
    simp

theorem mem_lines_or_empty (stacked : Stacked IsLineEnd rows text) {row : String}
    (mem : row ∈ rows) : row ∈ Text.lines text ∨ row = "" := by
  have kept := @mem_trimLast_or_isEmpty _ (fun row => decide (row = "")) _ _ mem
  rw [stacked.lines]
  simpa using kept

theorem lines_append_lineEnd (stacked : Stacked IsLineEnd rows text) (isEnd : IsLineEnd ending) :
    Text.lines (text ++ ending) = rows := by
  have ended : Stacked IsLineEnd (rows ++ [""]) (text ++ ending ++ "") :=
    stacked.append isEnd (.single Spelled.empty)
  have lines := ended.lines
  rwa [String.append_empty, trimLast_append_singleton, if_pos (by rfl)] at lines

theorem eq_joinWith {separator : String} (stacked : Stacked (· = separator) rows text) :
    text = joinWith separator rows := by
  induction stacked with
  | single _ => rfl
  | cons _ isEnd below ih =>
    obtain ⟨next, rest, rfl⟩ := List.exists_cons_of_ne_nil below.rows_ne_nil
    rw [isEnd, ih]
    rfl

theorem joinWith (some : rows ≠ []) (unbroken : ∀ row ∈ rows, Unbroken row) (isEnd : ends ending) :
    Stacked ends rows (joinWith ending rows) := by
  induction rows with
  | nil => exact absurd rfl some
  | cons row rest ih =>
    have first := unbroken row List.mem_cons_self
    cases rest with
    | nil => exact .single first
    | cons next rest =>
      have others := ih (by simp) fun row mem => unbroken row (List.mem_cons_of_mem _ mem)
      exact .cons first isEnd others

end Stacked

end SourceModel.Text
