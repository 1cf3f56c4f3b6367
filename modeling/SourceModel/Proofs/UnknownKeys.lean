import SourceModel.Document.Assembly

/-!
# Unknown keys

Which tables a document has, and where: `Part.slots` says to which tables the keys of a table lead.
A key that the format does not know, added to a table at any depth, makes the whole document
invalid (`parse_of_addsKey`), unless it is added to the table of an import or of a documentation
comment, which passes over it.
-/

namespace SourceModel.Document

open Toml (Value)

/-! ## The tables of a document -/

inductive Part
  | document
  | file
  | importTable
  | classTable
  | interfaceTable
  | field
  | method
  | parameter
  | javadoc
  | tag
  deriving DecidableEq, Repr

inductive Slot
  | one (part : Part)
  | many (part : Part)
  deriving DecidableEq, Repr

namespace Part

def shape : Part → Shape
  | document => documentShape
  | file => fileShape
  | importTable => importShape
  | classTable => classShape
  | interfaceTable => interfaceShape
  | field => fieldShape
  | method => methodShape
  | parameter => parameterShape
  | javadoc => javadocShape
  | tag => tagShape

def kind? : Part → Option DeclarationKind
  | classTable => some .classKind
  | interfaceTable => some .interfaceKind
  | _ => none

def keys (part : Part) : List String :=
  part.kind?.toList.map (fun _ => "kind") ++ part.shape.keys.map Prod.fst

def memberSlots : List (String × Slot) :=
  [("field", .many field), ("method", .many method), ("javadoc", .one javadoc)]

def slots : Part → List (String × Slot)
  | document => [("file", .many file)]
  | file =>
    [("imports", .many importTable), ("declaration", .many classTable),
     ("declaration", .many interfaceTable)]
  | classTable | interfaceTable => memberSlots
  | field => [("javadoc", .one javadoc)]
  | method => [("params", .many parameter), ("javadoc", .one javadoc)]
  | javadoc => [("tags", .many tag)]
  | importTable | parameter | tag => []

/-- The tables that are told by their form pass over unknown keys. -/
def IsStrict (part : Part) : Prop := part ≠ importTable ∧ part ≠ javadoc

instance : DecidablePred IsStrict := fun _ => inferInstanceAs (Decidable (_ ∧ _))

end Part

def kindOf? : Value → Option DeclarationKind
  | .array (kind :: _) => declarationKind? kind
  | .table entries => (Record.get? entries "kind").bind declarationKind?
  | _ => none

def Part.Describes (part : Part) (value : Value) : Prop :=
  ∀ kind ∈ part.kind?, kindOf? value = some kind

instance (part : Part) : DecidablePred part.Describes :=
  fun _ => Option.decidableForallMem part.kind?

/-- The second value is the first one with an unknown key more in one of its tables. A table may be
written as an array of its values, and the tables inside it are tables of the document, too. -/
inductive AddsKey (concerns : Part → Prop) : Slot → Value → Value → Prop
  | here {part : Part} {key : String} {added : Value} (before after : List (String × Value))
      (concerned : concerns part) (describes : part.Describes (.table (before ++ after)))
      (unknown : key ∉ part.keys) :
      AddsKey concerns (.one part) (.table (before ++ after))
        (.table (before ++ (key, added) :: after))
  | entry {part : Part} {key : String} {slot : Slot} {value value' : Value}
      (before after : List (String × Value))
      (describes : part.Describes (.table (before ++ (key, value) :: after)))
      (leads : (key, slot) ∈ part.slots) (first : key ∉ before.map Prod.fst)
      (inside : AddsKey concerns slot value value') :
      AddsKey concerns (.one part) (.table (before ++ (key, value) :: after))
        (.table (before ++ (key, value') :: after))
  | position {part : Part} {key : String} {slot : Slot} {value value' : Value}
      (before after : List Value) (describes : part.Describes (.array (before ++ value :: after)))
      (place : part.keys[before.length]? = some key) (leads : (key, slot) ∈ part.slots)
      (inside : AddsKey concerns slot value value') :
      AddsKey concerns (.one part) (.array (before ++ value :: after))
        (.array (before ++ value' :: after))
  | element {part : Part} {value value' : Value} (before after : List Value)
      (inside : AddsKey concerns (.one part) value value') :
      AddsKey concerns (.many part) (.array (before ++ value :: after))
        (.array (before ++ value' :: after))

/-! ## Accepted values -/

def Part.accepts : Part → Value → Bool
  | .document, value => (filesOf? value).isSome
  | .file, value => (fileOf? value).isSome
  | .importTable, value => (importOf? value).isSome
  | .classTable, value | .interfaceTable, value => (declarationOf? value).isSome
  | .field, value => (fieldOf? value).isSome
  | .method, value => (methodOf? value).isSome
  | .parameter, value => (parameterOf? value).isSome
  | .javadoc, value => (javadocOf? value).isSome
  | .tag, value => (tagOf? value).isSome

def Slot.Accepts : Slot → Value → Prop
  | .one part, value => part.accepts value = true
  | .many part, value => ∃ elements, value = .array elements ∧
      ∀ element ∈ elements, part.accepts element = true

/-! ## Records -/

namespace Record

theorem get?_append_cons_self {before : Record} {key : String}
    (first : key ∉ before.map Prod.fst) (value : Value) (after : Record) :
    get? (before ++ (key, value) :: after) key = some value := by
  have none : before.find? (fun entry => entry.1 = key) = none := by
    rw [List.find?_eq_none]
    intro entry mem same
    exact first (List.mem_map.mpr ⟨entry, mem, by simpa using same⟩)
  simp [get?, List.find?_append, none]

theorem get?_append_cons_of_ne {before after : Record} {key other : String} (ne : other ≠ key)
    (value : Value) :
    get? (before ++ (other, value) :: after) key = get? (before ++ after) key := by
  simp [get?, List.find?_append, ne]

theorem get?_filter_of_ne {key other : String} (ne : key ≠ other) (entries : Record) :
    get? (entries.filter fun entry => entry.1 != other) key = get? entries key := by
  rw [get?, get?, List.find?_filter]
  congr 2
  funext entry
  by_cases same : entry.1 = key
  · simp [same, ne]
  · simp [same]

theorem get?_zip {keys : List String} (distinct : keys.Nodup) {elements : List Value} {i : Nat}
    {key : String} {value : Value} (place : keys[i]? = some key)
    (element : elements[i]? = some value) : get? (keys.zip elements) key = some value := by
  induction keys generalizing elements i with
  | nil => simp at place
  | cons first rest ih =>
    obtain ⟨fresh, distinct⟩ := List.nodup_cons.mp distinct
    cases elements with
    | nil => simp at element
    | cons head others =>
      cases i with
      | zero =>
        obtain rfl : first = key := by simpa using place
        obtain rfl : head = value := by simpa using element
        simp [get?]
      | succ i =>
        have own : rest[i]? = some key := by simpa using place
        have ne : first ≠ key := by
          rintro rfl
          exact fresh (List.mem_of_getElem? own)
        have found := ih distinct own (by simpa using element)
        simpa [get?, ne] using found

variable {α : Type} {record : Record} {key : String} {decode : Value → Option α}

theorem isSome_of_optional {a : Option α} (decoded : record.optional key decode = some a)
    {value : Value} (given : record.get? key = some value) : (decode value).isSome := by
  rw [optional, given] at decoded
  obtain ⟨b, own, -⟩ := Option.map_eq_some_iff.mp decoded
  exact Option.isSome_of_eq_some own

theorem isSome_of_defaulted {default a : α} (decoded : record.defaulted key default decode = some a)
    {value : Value} (given : record.get? key = some value) : (decode value).isSome := by
  rw [defaulted, given] at decoded
  exact Option.isSome_of_eq_some decoded

end Record

theorem isSome_of_mapM {α : Type} {decode : Value → Option α} {elements : List Value}
    {decoded : List α} (all : elements.mapM decode = some decoded) :
    ∀ element ∈ elements, (decode element).isSome := by
  induction elements generalizing decoded with
  | nil => simp
  | cons element rest ih =>
    rw [List.mapM_cons] at all
    obtain ⟨first, own, all⟩ := Option.bind_eq_some_iff.mp all
    obtain ⟨others, rest, -⟩ := Option.bind_eq_some_iff.mp all
    exact List.forall_mem_cons.mpr ⟨Option.isSome_of_eq_some own, ih rest⟩

theorem exists_elements_of_list? {α : Type} {decode : Value → Option α} {value : Value}
    (decoded : (list? decode value).isSome) :
    ∃ elements, value = .array elements ∧ ∀ element ∈ elements, (decode element).isSome := by
  obtain ⟨all, decoded⟩ := Option.isSome_iff_exists.mp decoded
  unfold list? at decoded
  split at decoded
  · exact ⟨_, rfl, isSome_of_mapM decoded⟩
  · cases decoded

/-! ## What an accepted table leads to -/

namespace Part

/-- Whatever the record has under keys that lead to tables is accepted there. -/
def Leads (part : Part) (record : Record) : Prop :=
  ∀ key slot, (key, slot) ∈ part.slots → ∀ value, record.get? key = some value → slot.Accepts value

variable {value : Value} {record : Record}

theorem leads_document {files : List FileEntry} (decoded : filesOf? value = some files) :
    ∃ record, documentShape.ofValue? value = some record ∧ document.Leads record := by
  obtain ⟨record, known, files'⟩ := Option.bind_eq_some_iff.mp decoded
  refine ⟨record, known, ?_⟩
  simp only [Leads, slots, List.mem_singleton, Prod.mk.injEq]
  rintro _ _ ⟨rfl, rfl⟩ value given
  exact exists_elements_of_list? (Record.isSome_of_defaulted files' given)

theorem leads_file {entry : FileEntry} (decoded : fileOf? value = some entry) :
    ∃ record, fileShape.ofValue? value = some record ∧ file.Leads record := by
  simp only [fileOf?, Option.bind_eq_bind, Option.bind_eq_some_iff] at decoded
  obtain ⟨record, known, -, -, imports, imports', declarations, declarations', -⟩ := decoded
  refine ⟨record, known, ?_⟩
  simp only [Leads, slots, List.mem_cons, List.not_mem_nil, or_false, Prod.mk.injEq]
  rintro _ _ (⟨rfl, rfl⟩ | ⟨rfl, rfl⟩ | ⟨rfl, rfl⟩) value given
  · exact exists_elements_of_list? (Record.isSome_of_defaulted imports' given)
  · exact exists_elements_of_list? (Record.isSome_of_defaulted declarations' given)
  · exact exists_elements_of_list? (Record.isSome_of_defaulted declarations' given)

theorem leads_members {part : Part} (members : part.slots = memberSlots)
    {fields : List FieldEntry} {methods : List MethodEntry} {comment : Option JavadocEntry}
    (fields' : record.defaulted "field" [] (list? fieldOf?) = some fields)
    (methods' : record.defaulted "method" [] (list? methodOf?) = some methods)
    (comment' : record.optional "javadoc" javadocOf? = some comment) : part.Leads record := by
  rw [Leads, members]
  simp only [memberSlots, List.mem_cons, List.not_mem_nil, or_false, Prod.mk.injEq]
  rintro _ _ (⟨rfl, rfl⟩ | ⟨rfl, rfl⟩ | ⟨rfl, rfl⟩) value given
  · exact exists_elements_of_list? (Record.isSome_of_defaulted fields' given)
  · exact exists_elements_of_list? (Record.isSome_of_defaulted methods' given)
  · exact Record.isSome_of_optional comment' given

theorem leads_class {entry : ClassEntry} (decoded : classOf? record = some entry) :
    classTable.Leads record := by
  simp only [classOf?, Option.bind_eq_bind, Option.bind_eq_some_iff] at decoded
  obtain ⟨-, -, -, -, -, -, -, -, -, -, fields, fields', methods, methods', comment, comment', -⟩ :=
    decoded
  exact leads_members rfl fields' methods' comment'

theorem leads_interface {entry : InterfaceEntry} (decoded : interfaceOf? record = some entry) :
    interfaceTable.Leads record := by
  simp only [interfaceOf?, Option.bind_eq_bind, Option.bind_eq_some_iff] at decoded
  obtain ⟨-, -, -, -, -, -, -, -, fields, fields', methods, methods', comment, comment', -⟩ :=
    decoded
  exact leads_members rfl fields' methods' comment'

theorem leads_field {entry : FieldEntry} (decoded : fieldOf? value = some entry) :
    ∃ record, fieldShape.ofValue? value = some record ∧ field.Leads record := by
  simp only [fieldOf?, Option.bind_eq_bind, Option.bind_eq_some_iff] at decoded
  obtain ⟨record, known, -, -, -, -, -, -, -, -, comment, comment', -⟩ := decoded
  refine ⟨record, known, ?_⟩
  simp only [Leads, slots, List.mem_singleton, Prod.mk.injEq]
  rintro _ _ ⟨rfl, rfl⟩ value given
  exact Record.isSome_of_optional comment' given

theorem leads_method {entry : MethodEntry} (decoded : methodOf? value = some entry) :
    ∃ record, methodShape.ofValue? value = some record ∧ method.Leads record := by
  simp only [methodOf?, Option.bind_eq_bind, Option.bind_eq_some_iff] at decoded
  obtain ⟨record, known, -, -, -, -, -, -, -, -, parameters, parameters', -, -, -, -, comment,
    comment', -⟩ := decoded
  refine ⟨record, known, ?_⟩
  simp only [Leads, slots, List.mem_cons, List.not_mem_nil, or_false, Prod.mk.injEq]
  rintro _ _ (⟨rfl, rfl⟩ | ⟨rfl, rfl⟩) value given
  · exact exists_elements_of_list? (Record.isSome_of_defaulted parameters' given)
  · exact Record.isSome_of_optional comment' given

theorem leads_javadoc {entry : JavadocEntry} (decoded : javadocOf? value = some entry)
    (structured : ∀ text, value ≠ .string text) :
    ∃ record, (entries? value).bind javadocShape.ofEntries? = some record ∧
      javadoc.Leads record := by
  unfold javadocOf? at decoded
  split at decoded
  · exact absurd rfl (structured _)
  · obtain ⟨record, known, decoded⟩ := Option.bind_eq_some_iff.mp decoded
    obtain ⟨text, -, decoded⟩ := Option.bind_eq_some_iff.mp decoded
    obtain ⟨tags, tags', -⟩ := Option.bind_eq_some_iff.mp decoded
    refine ⟨record, known, ?_⟩
    simp only [Leads, slots, List.mem_singleton, Prod.mk.injEq]
    rintro _ _ ⟨rfl, rfl⟩ value given
    exact exists_elements_of_list? (Record.isSome_of_defaulted tags' given)

end Part

/-! ## The records of tables -/

def declarationRecord? : Value → Shape → Option Record
  | .array (_ :: elements), shape => shape.ofElements? elements
  | .table entries, shape => shape.ofEntries? (entries.filter fun entry => entry.1 != "kind")
  | _, _ => none

theorem declarationOf?_eq (value : Value) :
    declarationOf? value =
      (kindOf? value).bind fun kind => kind.declaration? (declarationRecord? value) := by
  cases value with
  | array elements => cases elements <;> rfl
  | table entries => rfl
  | _ => rfl

namespace Part

def record? (part : Part) (value : Value) : Option Record :=
  match part with
  | classTable | interfaceTable => declarationRecord? value part.shape
  | importTable | javadoc => (entries? value).bind part.shape.ofEntries?
  | _ => part.shape.ofValue? value

variable {part : Part} {value : Value}

theorem exists_record_of_describes {kind : DeclarationKind}
    (accepted : (declarationOf? value).isSome) (described : kindOf? value = some kind) :
    (kind.declaration? (declarationRecord? value)).isSome := by
  rwa [declarationOf?_eq, described, Option.bind_some] at accepted

theorem exists_record (accepted : part.accepts value = true) (describes : part.Describes value)
    (structured : ∀ text, value ≠ .string text) :
    ∃ record, part.record? value = some record ∧ part.Leads record := by
  cases part with
  | document =>
    obtain ⟨files, decoded⟩ := Option.isSome_iff_exists.mp accepted
    exact leads_document decoded
  | file =>
    obtain ⟨entry, decoded⟩ := Option.isSome_iff_exists.mp accepted
    exact leads_file decoded
  | importTable =>
    obtain ⟨entry, decoded⟩ := Option.isSome_iff_exists.mp accepted
    unfold importOf? at decoded
    split at decoded
    · exact absurd rfl (structured _)
    · obtain ⟨record, known, -⟩ := Option.bind_eq_some_iff.mp decoded
      exact ⟨record, known, by simp [Leads, slots]⟩
  | classTable =>
    have declared := exists_record_of_describes accepted (describes _ rfl)
    simp only [DeclarationKind.declaration?, Option.isSome_map, Option.isSome_iff_exists,
      Option.bind_eq_some_iff] at declared
    obtain ⟨entry, record, known, decoded⟩ := declared
    exact ⟨record, known, leads_class decoded⟩
  | interfaceTable =>
    have declared := exists_record_of_describes accepted (describes _ rfl)
    simp only [DeclarationKind.declaration?, Option.isSome_map, Option.isSome_iff_exists,
      Option.bind_eq_some_iff] at declared
    obtain ⟨entry, record, known, decoded⟩ := declared
    exact ⟨record, known, leads_interface decoded⟩
  | field =>
    obtain ⟨entry, decoded⟩ := Option.isSome_iff_exists.mp accepted
    exact leads_field decoded
  | method =>
    obtain ⟨entry, decoded⟩ := Option.isSome_iff_exists.mp accepted
    exact leads_method decoded
  | parameter =>
    obtain ⟨entry, decoded⟩ := Option.isSome_iff_exists.mp accepted
    obtain ⟨record, known, -⟩ := Option.bind_eq_some_iff.mp decoded
    exact ⟨record, known, by simp [Leads, slots]⟩
  | javadoc =>
    obtain ⟨entry, decoded⟩ := Option.isSome_iff_exists.mp accepted
    exact leads_javadoc decoded structured
  | tag =>
    obtain ⟨entry, decoded⟩ := Option.isSome_iff_exists.mp accepted
    obtain ⟨record, known, -⟩ := Option.bind_eq_some_iff.mp decoded
    exact ⟨record, known, by simp [Leads, slots]⟩

theorem ne_kind_of_leads {key : String} {slot : Slot} (leads : (key, slot) ∈ part.slots) :
    key ≠ "kind" := by
  have none : ∀ entry ∈ part.slots, entry.1 ≠ "kind" := by
    cases part <;> simp [slots, memberSlots]
  exact none _ leads

theorem kind_mem_keys {kind : DeclarationKind} (declares : kind ∈ part.kind?) :
    "kind" ∈ part.keys := by
  simp [keys, Option.mem_def.mp declares]

theorem nodup_keys (part : Part) : part.keys.Nodup := by
  cases part <;> decide

end Part

theorem Shape.eq_of_ofEntries? {shape : Shape} {entries : List (String × Value)} {record : Record}
    (found : shape.ofEntries? entries = some record) : record = entries := by
  simp only [ofEntries?] at found
  split at found
  · exact (Option.some.inj found).symm
  · cases found

theorem Shape.mem_keys_of_ofEntries? {shape : Shape} (strict : ∀ value, shape.ignores value = false)
    {entries : List (String × Value)} {record : Record}
    (found : shape.ofEntries? entries = some record) :
    ∀ entry ∈ entries, entry.1 ∈ shape.keys.map Prod.fst := by
  simp only [ofEntries?] at found
  split at found
  · rename_i known
    simp only [Bool.and_eq_true, List.all_eq_true, strict, Bool.or_false] at known
    intro entry mem
    obtain ⟨key, own, same⟩ := List.any_eq_true.mp (known.1 entry mem)
    exact List.mem_map.mpr ⟨key, own, by simpa using same⟩
  · cases found

theorem Shape.eq_of_ofElements? {shape : Shape} {elements : List Value} {record : Record}
    (found : shape.ofElements? elements = some record) :
    record = (shape.keys.map Prod.fst).zip elements := by
  simp only [ofElements?] at found
  split at found
  · exact (Option.some.inj found).symm
  · cases found

namespace Part

variable {part : Part} {record : Record} {key : String}

theorem get?_table {entries : List (String × Value)}
    (found : part.record? (.table entries) = some record) (ne : key ≠ "kind") :
    record.get? key = Record.get? entries key := by
  cases part
  case classTable | interfaceTable =>
    obtain rfl := Shape.eq_of_ofEntries? found
    exact Record.get?_filter_of_ne ne entries
  all_goals
    obtain rfl := Shape.eq_of_ofEntries? found
    rfl

theorem get?_array {elements : List Value}
    (found : part.record? (.array elements) = some record) (ne : key ≠ "kind") :
    record.get? key = Record.get? (part.keys.zip elements) key := by
  cases part
  case classTable | interfaceTable =>
    cases elements with
    | nil => cases found
    | cons kind elements =>
      obtain rfl := Shape.eq_of_ofElements? found
      simp [keys, kind?, Record.get?, ne.symm]
  case importTable | javadoc => cases found
  all_goals
    obtain rfl := Shape.eq_of_ofElements? found
    rfl

theorem IsStrict.ignores (strict : part.IsStrict) (value : Value) :
    part.shape.ignores value = false := by
  cases part
  case importTable => exact absurd rfl strict.1
  case javadoc => exact absurd rfl strict.2
  all_goals rfl

theorem mem_keys_of_record? (strict : part.IsStrict) {entries : List (String × Value)}
    (found : part.record? (.table entries) = some record) :
    ∀ entry ∈ entries, entry.1 ∈ part.keys := by
  intro entry mem
  cases part
  case classTable | interfaceTable =>
    by_cases kind : entry.1 = "kind"
    · rw [kind]
      exact kind_mem_keys rfl
    · have kept : entry ∈ entries.filter fun entry => entry.1 != "kind" :=
        List.mem_filter.mpr ⟨mem, by simpa using kind⟩
      have known := Shape.mem_keys_of_ofEntries? strict.ignores found entry kept
      exact List.mem_append_right _ known
  all_goals exact Shape.mem_keys_of_ofEntries? strict.ignores found entry mem

/-! ## Adding keys -/

theorem describes_table_iff {before after : List (String × Value)} {value : Value}
    (ne : key ≠ "kind") :
    part.Describes (.table (before ++ (key, value) :: after)) ↔
      part.Describes (.table (before ++ after)) := by
  simp only [Describes, kindOf?, Record.get?_append_cons_of_ne ne]

theorem Describes.replace {before after : List Value} {value : Value}
    (describes : part.Describes (.array (before ++ value :: after)))
    (place : part.keys[before.length]? = some key) (ne : key ≠ "kind") (value' : Value) :
    part.Describes (.array (before ++ value' :: after)) := by
  intro kind declares
  cases before with
  | nil => simp [keys, Option.mem_def.mp declares, ne.symm] at place
  | cons head before => exact describes kind declares

end Part

theorem not_accepts_of_addsKey {slot : Slot} {value value' : Value}
    (adds : AddsKey Part.IsStrict slot value value') : ¬ slot.Accepts value' := by
  -- From the table with the new key outwards, no value on the way is accepted any more.
  induction adds with
  | @here part key added before after strict describes unknown =>
    intro accepted
    have described : part.Describes (.table (before ++ (key, added) :: after)) := by
      intro kind declares
      have ne : key ≠ "kind" := fun same => unknown (same ▸ Part.kind_mem_keys declares)
      exact (Part.describes_table_iff ne).mpr describes kind declares
    obtain ⟨record, found, -⟩ := Part.exists_record accepted described (by simp)
    exact unknown (Part.mem_keys_of_record? strict found (key, added) (by simp))
  | @entry part key slot value value' before after describes leads first inside ih =>
    intro accepted
    have ne := Part.ne_kind_of_leads leads
    have described : part.Describes (.table (before ++ (key, value') :: after)) :=
      (Part.describes_table_iff ne).mpr ((Part.describes_table_iff ne).mp describes)
    obtain ⟨record, found, led⟩ := Part.exists_record accepted described (by simp)
    refine ih (led key slot leads value' ?_)
    rw [Part.get?_table found ne, Record.get?_append_cons_self first]
  | @position part key slot value value' before after describes place leads inside ih =>
    intro accepted
    have ne := Part.ne_kind_of_leads leads
    obtain ⟨record, found, led⟩ :=
      Part.exists_record accepted (describes.replace place ne value') (by simp)
    refine ih (led key slot leads value' ?_)
    rw [Part.get?_array found ne]
    exact Record.get?_zip part.nodup_keys place (by simp)
  | element before after inside ih =>
    rintro ⟨elements, same, accepted⟩
    obtain rfl := Value.array.inj same
    exact ih (accepted _ (by simp))

/-- An unknown key that is added to a table, other than that of an import or a comment, makes the
document invalid. -/
theorem parse_of_addsKey {text : String} {value value' : Value}
    (adds : AddsKey Part.IsStrict (.one .document) value value')
    (read : Toml.parse text = some value') :
    parse text = .error (.model "invalid model document") := by
  have rejected : filesOf? value' = none := by
    have refused := not_accepts_of_addsKey adds
    simpa [Slot.Accepts, Part.accepts] using refused
  rw [parse, decode, read, Option.bind_some, rejected]
  rfl

def taggedText (more : String) : String :=
  "[[file]]\nname = \"A.java\"\n[[file.declaration]]\nkind = \"class\"\nname = \"A\"\n" ++
    "javadoc.tags = [\x7bname = \"see\"" ++ more ++ "\x7d]\n"

def tagged (more : List (String × Value)) : Value :=
  .table [("file", .array [.table [("name", .string "A.java"), ("declaration", .array [.table
    [("kind", .string "class"), ("name", .string "A"), ("javadoc", .table [("tags", .array
      [.table (("name", .string "see") :: more)])])]])]])]

theorem parse_of_addsKey_tagged :
    (parse (taggedText "")).isOk = true ∧ Toml.parse (taggedText "") = some (tagged []) ∧
      AddsKey Part.IsStrict (.one .document) (tagged []) (tagged [("txt", .string "B")]) ∧
      Toml.parse (taggedText ", txt = \"B\"") = some (tagged [("txt", .string "B")]) ∧
      parse (taggedText ", txt = \"B\"") = .error (.model "invalid model document") := by
  have given : Toml.parse (taggedText "") = some (tagged []) := by decide +kernel
  have accepted : (parse (taggedText "")).isOk = true := by
    rw [parse, decode, given]
    decide +kernel
  have adds : AddsKey Part.IsStrict (.one .document) (tagged [])
      (tagged [("txt", .string "B")]) := by
    refine .entry [] [] (by decide) (show ("file", .many .file) ∈ Part.document.slots by decide)
      (by decide) (.element [] [] ?_)
    refine .entry [("name", .string "A.java")] [] (by decide)
      (show ("declaration", .many .classTable) ∈ Part.file.slots by decide) (by decide)
      (.element [] [] ?_)
    refine .entry [("kind", .string "class"), ("name", .string "A")] [] (by decide)
      (show ("javadoc", .one .javadoc) ∈ Part.classTable.slots by decide) (by decide) ?_
    refine .entry [] [] (by decide) (show ("tags", .many .tag) ∈ Part.javadoc.slots by decide)
      (by decide) (.element [] [] ?_)
    exact .here [("name", .string "see")] [] (by decide) (by decide) (by decide)
  have read : Toml.parse (taggedText ", txt = \"B\"") = some (tagged [("txt", .string "B")]) := by
    decide +kernel
  exact ⟨accepted, given, adds, read, parse_of_addsKey adds read⟩

/-! ## Keys that are passed over -/

theorem Shape.ofEntries?_append_cons {shape : Shape} {key : String} {added : Value}
    (unknown : key ∉ shape.keys.map Prod.fst) (ignored : shape.ignores added = true)
    (before after : List (String × Value)) :
    shape.ofEntries? (before ++ (key, added) :: after) =
      (shape.ofEntries? (before ++ after)).map fun _ => before ++ (key, added) :: after := by
  have apart : ∀ known ∈ shape.keys, (key == known.1) = false := by
    intro known mem
    rw [beq_eq_false_iff_ne]
    rintro rfl
    exact unknown (List.mem_map_of_mem mem)
  have complete : (shape.keys.all fun known => known.2 != .required ||
      (before ++ (key, added) :: after).any fun entry => entry.1 == known.1) =
        shape.keys.all fun known => known.2 != .required ||
          (before ++ after).any fun entry => entry.1 == known.1 := by
    rw [Bool.eq_iff_iff, List.all_eq_true, List.all_eq_true]
    refine forall₂_congr fun known mem => ?_
    simp [apart known mem]
  simp only [ofEntries?, complete, List.all_append, List.all_cons, ignored, Bool.or_true,
    Bool.true_and]
  split <;> rfl

theorem Shape.bind_ofEntries?_append_cons {α : Type} {shape : Shape} {key : String} {added : Value}
    (unknown : key ∉ shape.keys.map Prod.fst) (ignored : shape.ignores added = true)
    (before after : List (String × Value)) {decode : Record → Option α}
    (same : decode (before ++ (key, added) :: after) = decode (before ++ after)) :
    (shape.ofEntries? (before ++ (key, added) :: after)).bind decode =
      (shape.ofEntries? (before ++ after)).bind decode := by
  rw [ofEntries?_append_cons unknown ignored]
  cases known : shape.ofEntries? (before ++ after) with
  | none => rfl
  | some record =>
    obtain rfl := eq_of_ofEntries? known
    exact same

theorem importOf?_append_cons {key : String} {added : Value}
    (unknown : key ∉ Part.importTable.keys) (small : fitsWords 64 added = true)
    (before after : List (String × Value)) :
    importOf? (.table (before ++ (key, added) :: after)) = importOf? (.table (before ++ after)) := by
  have typed : key ≠ "type" := by rintro rfl; exact unknown (by decide)
  have owned : key ≠ "member" := by rintro rfl; exact unknown (by decide)
  refine @Shape.bind_ofEntries?_append_cons _ importShape _ _ unknown small before after _ ?_
  simp only [Record.required, Record.get?_append_cons_of_ne typed,
    Record.get?_append_cons_of_ne owned]

theorem javadocOf?_append_cons {key : String} {added : Value}
    (unknown : key ∉ Part.javadoc.keys) (small : fitsWords 64 added = true)
    (before after : List (String × Value)) :
    javadocOf? (.table (before ++ (key, added) :: after)) =
      javadocOf? (.table (before ++ after)) := by
  have texted : key ≠ "text" := by rintro rfl; exact unknown (by decide)
  have tagged : key ≠ "tags" := by rintro rfl; exact unknown (by decide)
  refine @Shape.bind_ofEntries?_append_cons _ javadocShape _ _ unknown small before after _ ?_
  simp only [Record.defaulted, Record.get?_append_cons_of_ne texted,
    Record.get?_append_cons_of_ne tagged]

def importingText (more : String) : String :=
  "[[file]]\nname = \"A.java\"\nimports = [\x7btype = \"x.Y\", member = \"m\"" ++ more ++ "\x7d]\n"

def importing (more : List (String × Value)) : Value :=
  .table [("file", .array [.table [("name", .string "A.java"), ("imports", .array
    [.table ([("type", .string "x.Y"), ("member", .string "m")] ++ more)])]])]

theorem parse_importingText_extra :
    Toml.parse (importingText "") = some (importing []) ∧
      Toml.parse (importingText ", extra = 1") = some (importing [("extra", .integer (some 1))]) ∧
      AddsKey (fun _ => True) (.one .document) (importing [])
        (importing [("extra", .integer (some 1))]) ∧
      ∃ files, parse (importingText "") = .ok files ∧
        parse (importingText ", extra = 1") = .ok files := by
  have given : Toml.parse (importingText "") = some (importing []) := by decide +kernel
  have read : Toml.parse (importingText ", extra = 1") =
      some (importing [("extra", .integer (some 1))]) := by
    decide +kernel
  refine ⟨given, read, ?_, ?_⟩
  · refine .entry [] [] (by decide) (show ("file", .many .file) ∈ Part.document.slots by decide)
      (by decide) (.element [] [] ?_)
    refine .entry [("name", .string "A.java")] [] (by decide)
      (show ("imports", .many .importTable) ∈ Part.file.slots by decide) (by decide)
      (.element [] [] ?_)
    exact .here [("type", .string "x.Y"), ("member", .string "m")] [] trivial (by decide) (by decide)
  · rw [parse, parse, decode, decode, given, read]
    exact ⟨_, rfl, rfl⟩

end SourceModel.Document
