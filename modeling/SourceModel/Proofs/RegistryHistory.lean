import Mathlib.Data.List.Basic
import SourceModel.Dialect

namespace SourceModel

/-- Of all that the entries have for the key, the value stands last. -/
def LatestIn {κ α : Type} (entries : List (κ × α)) (key : κ) (value : α) : Prop :=
  ∃ earlier later, entries = earlier ++ (key, value) :: later ∧ key ∉ later.map Prod.fst

theorem latestIn_cons {κ α : Type} {entry : κ × α} {rest : List (κ × α)} {key : κ} {value : α} :
    LatestIn (entry :: rest) key value ↔
      LatestIn rest key value ∨ key ∉ rest.map Prod.fst ∧ entry = (key, value) := by
  constructor
  · rintro ⟨earlier, later, whole, absent⟩
    rcases List.cons_eq_append_iff.mp whole with ⟨rfl, same⟩ | ⟨earlier, rfl, behind⟩
    · obtain ⟨rfl, rfl⟩ := List.cons.inj same
      exact .inr ⟨absent, rfl⟩
    · exact .inl ⟨earlier, later, behind, absent⟩
  · rintro (⟨earlier, later, rfl, absent⟩ | ⟨absent, rfl⟩)
    · exact ⟨entry :: earlier, later, rfl, absent⟩
    · exact ⟨[], rest, rfl, absent⟩

/-- The elements of the second list, each once and in the order of its first place there. -/
structure FirstArrivals {κ : Type} [DecidableEq κ] (keys arrived : List κ) : Prop where
  mem : ∀ key, key ∈ keys ↔ key ∈ arrived
  order : keys.Pairwise fun key later => arrived.idxOf key < arrived.idxOf later

namespace FirstArrivals

variable {κ : Type} [DecidableEq κ] {keys arrived : List κ}

theorem concat (arrivals : FirstArrivals keys arrived) (key : κ) :
    FirstArrivals (if key ∈ keys then keys else keys ++ [key]) (arrived ++ [key]) := by
  have place : ∀ other ∈ keys, (arrived ++ [key]).idxOf other = arrived.idxOf other :=
    fun other mem => List.idxOf_append_of_mem ((arrivals.mem other).mp mem)
  have order : keys.Pairwise fun key' later =>
      (arrived ++ [key]).idxOf key' < (arrived ++ [key]).idxOf later := by
    apply arrivals.order.imp_of_mem
    intro key' later mem mem' before
    rwa [place key' mem, place later mem']
  split
  · rename_i present
    refine ⟨fun other => ?_, order⟩
    rw [List.mem_append, ← arrivals.mem, List.mem_singleton]
    exact ⟨.inl, fun either => either.elim id fun same => same ▸ present⟩
  · rename_i absent
    refine ⟨fun other => by simp [arrivals.mem], ?_⟩
    rw [List.pairwise_append]
    refine ⟨order, List.pairwise_singleton _ _, ?_⟩
    intro other mem last isLast
    obtain rfl := List.mem_singleton.mp isLast
    rw [place other mem, List.idxOf_append_of_notMem (mt (arrivals.mem last).mpr absent)]
    exact Nat.lt_add_right _ (List.idxOf_lt_length_of_mem ((arrivals.mem other).mp mem))

theorem nodup (arrivals : FirstArrivals keys arrived) : keys.Nodup := by
  apply arrivals.order.imp
  rintro key later before rfl
  exact Nat.lt_irrefl _ before

end FirstArrivals

namespace OrderedMap

variable {κ α : Type} [DecidableEq κ]

theorem get?_insertAll_eq_some_iff {m : OrderedMap κ α} {entries : List (κ × α)} {key : κ}
    {value : α} :
    (m.insertAll entries).get? key = some value ↔
      LatestIn entries key value ∨ key ∉ entries.map Prod.fst ∧ m.get? key = some value := by
  induction entries generalizing m with
  | nil => simp [insertAll, LatestIn]
  | cons entry rest ih =>
    have others := ih (m := m.insert entry.1 entry.2)
    simp only [insertAll, List.foldl_cons] at others ⊢
    rw [others, get?_insert, latestIn_cons, or_assoc]
    obtain ⟨own, given⟩ := entry
    by_cases same : own = key
    · simp [same]
    · simp [same, Ne.symm same]

theorem get?_insertAll_of_notMem {entries : List (κ × α)} {key : κ}
    (absent : key ∉ entries.map Prod.fst) (m : OrderedMap κ α) :
    (m.insertAll entries).get? key = m.get? key := by
  have never : ∀ value, ¬ LatestIn entries key value := by
    rintro value ⟨earlier, later, rfl, -⟩
    simp at absent
  apply Option.ext
  intro value
  rw [get?_insertAll_eq_some_iff]
  simp [never, absent]

theorem firstArrivals_insertAll {m : OrderedMap κ α} {arrived : List κ}
    (arrivals : FirstArrivals m.keys arrived) (entries : List (κ × α)) :
    FirstArrivals (m.insertAll entries).keys (arrived ++ entries.map Prod.fst) := by
  induction entries generalizing m arrived with
  | nil => simpa [insertAll] using arrivals
  | cons entry rest ih =>
    have first := arrivals.concat entry.1
    rw [← keys_insert m entry.1 entry.2] at first
    have all := ih first
    rwa [List.append_assoc] at all

theorem mem_of_get? {m : OrderedMap κ α} {key : κ} {value : α} (found : m.get? key = some value) :
    (key, value) ∈ m.entries := by
  obtain ⟨entry, first, rfl⟩ := Option.map_eq_some_iff.mp found
  have same := List.find?_some first
  obtain rfl := of_decide_eq_true same
  exact List.mem_of_find?_eq_some first

theorem get?_eq_none_iff {m : OrderedMap κ α} {key : κ} : m.get? key = none ↔ key ∉ m.keys := by
  rw [get?, Option.map_eq_none_iff, List.find?_eq_none, keys, List.mem_map]
  constructor
  · rintro none ⟨entry, mem, rfl⟩
    exact none entry mem (decide_eq_true rfl)
  · intro absent entry mem same
    exact absent ⟨entry, mem, of_decide_eq_true same⟩

end OrderedMap

inductive Registration : Type 1
  | given (kind : NodeKind) (renderer : Renderer)
  | function (kind : NodeKind) (render : Generator → Node → Rendering Fragment)
  | installed {α : Type} (kind : NodeKind) (view : View α)

namespace Registration

def kind : Registration → NodeKind
  | given kind _ => kind
  | function kind _ => kind
  | installed kind _ => kind

def renderer : Registration → Renderer
  | given _ renderer => renderer
  | function _ render => { render }
  | installed _ view => view.renderer

def perform (r : Registry) : Registration → Option Renderer × Registry
  | given kind renderer => r.exchange kind renderer
  | function kind render => r.registerFunction kind render
  | installed kind view => r.installView kind view

theorem perform_eq_exchange (r : Registry) (registration : Registration) :
    registration.perform r = r.exchange registration.kind registration.renderer := by
  cases registration <;> rfl

end Registration

inductive RegistryCall : Type 1
  | register (registration : Registration)
  | extend (other : Registry)
  | install (dialect : Dialect)

namespace RegistryCall

def perform (r : Registry) : RegistryCall → Registry
  | register registration => (registration.perform r).2
  | extend other => r.extend other
  | install dialect => dialect.install r

def entries : RegistryCall → List (NodeKind × Renderer)
  | register registration => [(registration.kind, registration.renderer)]
  | extend other => other.renderers.entries
  | install dialect => dialect.renderers

theorem perform_eq_registerAll (r : Registry) (call : RegistryCall) :
    call.perform r = r.registerAll call.entries := by
  cases call with
  | register registration => rw [perform, Registration.perform_eq_exchange]; rfl
  | extend other => rfl
  | install dialect => rfl

end RegistryCall

namespace Registry

def afterCalls (r : Registry) (calls : List RegistryCall) : Registry :=
  calls.foldl RegistryCall.perform r

theorem registerAll_append (r : Registry) (entries more : List (NodeKind × Renderer)) :
    r.registerAll (entries ++ more) = (r.registerAll entries).registerAll more := by
  simp only [registerAll, OrderedMap.insertAll, List.foldl_append]

theorem afterCalls_eq_registerAll (r : Registry) (calls : List RegistryCall) :
    r.afterCalls calls = r.registerAll (calls.flatMap RegistryCall.entries) := by
  induction calls generalizing r with
  | nil => rfl
  | cons call rest ih =>
    have others := ih (call.perform r)
    rw [RegistryCall.perform_eq_registerAll, ← registerAll_append] at others
    rw [afterCalls, List.foldl_cons, RegistryCall.perform_eq_registerAll]
    exact others

theorem firstOf?_eq_findSome? (r : Registry) (kinds : List NodeKind) :
    r.firstOf? kinds = kinds.findSome? r.renderers.get? := by
  induction kinds with
  | nil => rfl
  | cons kind rest ih =>
    rw [firstOf?, List.findSome?_cons, ih]
    cases r.renderers.get? kind <;> rfl

theorem firstOf?_eq_some_iff {r : Registry} {kinds : List NodeKind} {renderer : Renderer} :
    r.firstOf? kinds = some renderer ↔
      ∃ before kind after, kinds = before ++ kind :: after ∧
        (∀ earlier ∈ before, earlier ∉ r.kinds) ∧ r.renderers.get? kind = some renderer := by
  simp only [firstOf?_eq_findSome?, List.findSome?_eq_some_iff, OrderedMap.get?_eq_none_iff,
    Registry.kinds, and_comm (b := ∀ earlier ∈ _, _)]

theorem firstOf?_eq_none_iff {r : Registry} {kinds : List NodeKind} :
    r.firstOf? kinds = none ↔ ∀ kind ∈ kinds, kind ∉ r.kinds := by
  simp only [firstOf?_eq_findSome?, List.findSome?_eq_none_iff, OrderedMap.get?_eq_none_iff,
    Registry.kinds]

theorem lookup_eq_ok_iff {r : Registry} {node : Node} {renderer : Renderer} :
    r.lookup node = .ok renderer ↔ r.firstOf? node.lookupKinds = some renderer := by
  rw [lookup]
  split <;> simp_all

theorem lookup_eq_error_iff {r : Registry} {node : Node} {e : RenderError} :
    r.lookup node = .error e ↔
      r.firstOf? node.lookupKinds = none ∧ e = .noRenderer node.kind node.capabilities := by
  rw [lookup]
  split
  · simp_all
  · simp_all [eq_comm]

theorem firstArrivals_kinds_registerAll (dialect : String)
    (entries : List (NodeKind × Renderer)) :
    FirstArrivals ((empty dialect).registerAll entries).kinds (entries.map Prod.fst) := by
  have none : FirstArrivals (empty dialect).kinds [] := ⟨fun _ => Iff.rfl, List.Pairwise.nil⟩
  exact OrderedMap.firstArrivals_insertAll none entries

theorem get?_registerAll_empty {dialect : String} {entries : List (NodeKind × Renderer)}
    {kind : NodeKind} {renderer : Renderer} :
    ((empty dialect).registerAll entries).renderers.get? kind = some renderer ↔
      LatestIn entries kind renderer := by
  rw [registerAll, OrderedMap.get?_insertAll_eq_some_iff]
  simp [empty, EmptyCollection.emptyCollection, OrderedMap.empty, OrderedMap.get?]

end Registry

/-- After any calls the kinds of a registry stand in the order of their first registration. A
further registration hands back the renderer that was registered latest for its kind, if any was,
and a node has the latest renderer of the first of its kinds that was registered at all. -/
theorem registry_afterCalls (dialect : String) (calls : List RegistryCall) :
    let r := (Registry.empty dialect).afterCalls calls
    let history := calls.flatMap RegistryCall.entries
    (r.kinds.Nodup ∧ FirstArrivals r.kinds (history.map Prod.fst)) ∧
      (∀ registration : Registration,
        (∀ previous, (registration.perform r).1 = some previous ↔
          LatestIn history registration.kind previous) ∧
        ((registration.perform r).1 = none ↔ registration.kind ∉ r.kinds) ∧
        (registration.perform r).2 =
          (Registry.empty dialect).afterCalls (calls ++ [.register registration])) ∧
      ∀ node : Node,
        (∀ renderer, r.lookup node = .ok renderer ↔
          ∃ before kind after, node.kind :: node.capabilities = before ++ kind :: after ∧
            (∀ earlier ∈ before, earlier ∉ r.kinds) ∧ LatestIn history kind renderer) ∧
        ∀ e, r.lookup node = .error e ↔
          (∀ kind ∈ node.kind :: node.capabilities, kind ∉ r.kinds) ∧
            e = .noRenderer node.kind node.capabilities := by
  intro r history
  have sum : r = (Registry.empty dialect).registerAll history :=
    Registry.afterCalls_eq_registerAll _ _
  have arrivals : FirstArrivals r.kinds (history.map Prod.fst) :=
    sum ▸ Registry.firstArrivals_kinds_registerAll dialect history
  -- All that the registry has comes from its history, since it began empty.
  have latest : ∀ kind renderer,
      r.renderers.get? kind = some renderer ↔ LatestIn history kind renderer := by
    intro kind renderer
    rw [sum]
    exact Registry.get?_registerAll_empty
  refine ⟨⟨arrivals.nodup, arrivals⟩, fun registration => ⟨?_, ?_, ?_⟩, fun node => ⟨?_, ?_⟩⟩
  · intro previous
    rw [Registration.perform_eq_exchange]
    exact latest _ _
  · rw [Registration.perform_eq_exchange]
    exact OrderedMap.get?_eq_none_iff
  · rw [Registry.afterCalls, List.foldl_concat]
    rfl
  · intro renderer
    rw [Registry.lookup_eq_ok_iff, Registry.firstOf?_eq_some_iff]
    simp only [latest]
    rfl
  · intro e
    rw [Registry.lookup_eq_error_iff, Registry.firstOf?_eq_none_iff]
    rfl

end SourceModel
