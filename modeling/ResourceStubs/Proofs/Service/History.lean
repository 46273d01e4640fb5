import Mathlib.Data.Finset.Card
import ResourceStubs.Proofs.Service.Catalog

/-! The history of a catalog. Services are added one by one or as a configuration has them. Whatever
the order of the steps, a service is found under its name with the class name that it was added with
last, and the services are listed in the order in which their names were added first. -/

namespace ResourceStubs

/-- The services of a configuration with their class names, in order. -/
def Config.entries (config : Config) : List (String × String) :=
  config.services.map fun entry => (entry.name, entry.className)

namespace Catalog

/-- What is done to a catalog while it is filled. -/
inductive Step where
  | add (name className : String)
  | configure (config : Config)

namespace Step

/-- The catalog after a step. -/
def run (catalog : Catalog) : Step → Catalog
  | add name className => catalog.add name className
  | configure config => config.applyTo catalog

/-- The services that a step adds, in order. -/
def entries : Step → List (String × String)
  | add name className => [(name, className)]
  | configure config => config.entries

theorem run_eq (catalog : Catalog) (step : Step) :
    step.run catalog = catalog.addAll step.entries := by
  cases step <;> rfl

end Step

theorem addAll_append (catalog : Catalog) (entries more : List (String × String)) :
    catalog.addAll (entries ++ more) = (catalog.addAll entries).addAll more := List.foldl_append

/-- Steps add the services of all of them. -/
theorem foldl_run_eq (catalog : Catalog) (steps : List Step) :
    steps.foldl Step.run catalog = catalog.addAll (steps.flatMap Step.entries) := by
  induction steps generalizing catalog with
  | nil => rfl
  | cons step steps ih => rw [List.foldl_cons, ih, List.flatMap_cons, addAll_append, step.run_eq]

/-- The class name that a name was added with last. -/
def lastClassName? (history : List (String × String)) (name : String) : Option String :=
  history.reverse.lookup name

theorem lastClassName?_append (history more : List (String × String)) (name : String) :
    lastClassName? (history ++ more) name =
      (lastClassName? more name).or (lastClassName? history name) := by
  rw [lastClassName?, List.reverse_append, List.lookup_append]
  rfl

theorem lastClassName?_concat (history : List (String × String)) (name className other : String) :
    lastClassName? (history ++ [(name, className)]) other =
      if other = name then some className else lastClassName? history other := by
  rw [lastClassName?_append]
  by_cases h : other = name
  · simp [lastClassName?, h]
  · rw [if_neg h, lastClassName?, List.reverse_singleton, Dict.lookup_cons_of_ne h]
    rfl

theorem lastClassName?_eq_none_iff {history : List (String × String)} {name : String} :
    lastClassName? history name = none ↔ name ∉ history.map Prod.fst := by
  rw [lastClassName?, Dict.lookup_eq_none_iff, List.map_reverse, List.mem_reverse]

/-! ### What a step keeps -/

/-- A name that was added first stands before one that comes anew. -/
theorem idxOf_lt_idxOf_concat {added : List String} {earlier name : String} (he : earlier ∈ added)
    (hn : name ∉ added) : (added ++ [name]).idxOf earlier < (added ++ [name]).idxOf name := by
  rw [List.idxOf_append_of_mem he, List.idxOf_append_of_notMem hn]
  exact Nat.lt_add_right _ (List.idxOf_lt_length_of_mem he)

/-- What is added later does not change the order of first additions. -/
theorem pairwise_idxOf_append {names added : List String}
    (h : names.Pairwise fun a b => added.idxOf a < added.idxOf b)
    (hadded : ∀ name ∈ names, name ∈ added) (more : List String) :
    names.Pairwise fun a b => (added ++ more).idxOf a < (added ++ more).idxOf b := by
  refine h.imp_of_mem fun ha hb hab => ?_
  rwa [List.idxOf_append_of_mem (hadded _ ha), List.idxOf_append_of_mem (hadded _ hb)]

/-- The catalog has the services of a history: each under its name with its last class name, and in
the order in which they came. -/
structure Holds (catalog : Catalog) (history : List (String × String)) : Prop where
  get? : ∀ name, catalog.services.get? name =
    (lastClassName? history name).map (ServiceName.ofNames name)
  order : catalog.services.keys.Pairwise fun a b =>
    (history.map Prod.fst).idxOf a < (history.map Prod.fst).idxOf b

variable {catalog : Catalog} {history : List (String × String)}

theorem holds_empty : empty.Holds [] := ⟨fun _ => rfl, .nil⟩

theorem Holds.mem_keys_iff (h : catalog.Holds history) {name : String} :
    name ∈ catalog.services.keys ↔ name ∈ history.map Prod.fst := by
  rw [← not_iff_not, ← Dict.get?_eq_none_iff, h.get?, Option.map_eq_none_iff,
    lastClassName?_eq_none_iff]

theorem Holds.add (h : catalog.Holds history) (name className : String) :
    (catalog.add name className).Holds (history ++ [(name, className)]) where
  get? other := by
    rw [get?_add, lastClassName?_concat]
    split
    next heq =>
      subst heq
      rw [h.get?]
      cases lastClassName? history other <;> rfl
    next => exact h.get? other
  order := by
    have hadded : ∀ other ∈ catalog.services.keys, other ∈ history.map Prod.fst :=
      fun _ => h.mem_keys_iff.mp
    have hbefore := pairwise_idxOf_append h.order hadded [name]
    rw [List.map_append]
    change ((catalog.services.insert name _).keys).Pairwise _
    rw [Dict.keys_insert]
    split
    next => exact hbefore
    next hnew =>
      refine List.pairwise_append.mpr
        ⟨hbefore, List.pairwise_singleton _ _, fun other hother n hn => ?_⟩
      obtain rfl := List.mem_singleton.mp hn
      exact idxOf_lt_idxOf_concat (hadded _ hother) (mt h.mem_keys_iff.mpr hnew)

/-- Whatever is added, the catalog has it. -/
theorem Holds.addAll (h : catalog.Holds history) (entries : List (String × String)) :
    (catalog.addAll entries).Holds (history ++ entries) := by
  induction entries generalizing catalog history with
  | nil => rwa [List.append_nil]
  | cons entry entries ih =>
    have hrest := ih (h.add entry.1 entry.2)
    rwa [List.append_assoc] at hrest

theorem holds_defaults : defaults.Holds defaultEntries := holds_empty.addAll _

/-! ### What is asked of a catalog -/

/-- What a catalog answers after a history. A name is found if it was added, with its last class
name, and listed once, in the order in which the names were added first. -/
structure Recalls (catalog : Catalog) (history : List (String × String)) : Prop where
  find : ∀ name, catalog.find name =
    match lastClassName? history name with
    | some className => .ok ⟨name, className, "latest"⟩
    | none => .error (.serviceNotFound name)
  found : ∀ name, (∃ service, catalog.find name = .ok service) ↔ name ∈ history.map Prod.fst
  contains : ∀ name, catalog.contains name = true ↔ ∃ service, catalog.find name = .ok service
  listed : ∀ service, service ∈ catalog.toList ↔ catalog.find service.name = .ok service
  order : (catalog.toList.map (·.name)).Pairwise fun a b =>
    (history.map Prod.fst).idxOf a < (history.map Prod.fst).idxOf b
  size : catalog.size = (history.map Prod.fst).toFinset.card

theorem find_eq_ok_iff {name : String} {service : ServiceName} :
    catalog.find name = .ok service ↔ catalog.services.get? name = some service := by
  rw [Catalog.find]
  cases catalog.services.get? name <;> simp

theorem Holds.keyed (h : catalog.Holds history) : catalog.Keyed := by
  intro name service hs
  rw [h.get?] at hs
  obtain ⟨className, -, rfl⟩ := Option.map_eq_some_iff.mp hs
  rfl

/-- The services are listed under the names that they stand under. -/
theorem Keyed.map_name_toList (h : catalog.Keyed) :
    catalog.toList.map (·.name) = catalog.services.keys := by
  rw [toList, Dict.values, Dict.keys, List.map_map]
  exact List.map_congr_left fun entry hentry => h _ _ (Dict.get?_eq_some_iff.mpr hentry)

theorem Keyed.mem_toList_iff (h : catalog.Keyed) {service : ServiceName} :
    service ∈ catalog.toList ↔ catalog.find service.name = .ok service := by
  rw [find_eq_ok_iff, Dict.get?_eq_some_iff, toList, Dict.values, List.mem_map]
  constructor
  · rintro ⟨⟨name, service⟩, hentry, rfl⟩
    rwa [← h _ _ (Dict.get?_eq_some_iff.mpr hentry)] at hentry
  · exact fun hentry => ⟨_, hentry, rfl⟩

theorem Holds.recalls (h : catalog.Holds history) : catalog.Recalls history where
  find name := by
    rw [Catalog.find, h.get?]
    cases lastClassName? history name <;> rfl
  found name := by
    simp only [find_eq_ok_iff]
    rw [← Dict.mem_keys_iff, h.mem_keys_iff]
  contains name := by
    simp only [find_eq_ok_iff]
    exact Option.isSome_iff_exists
  listed _ := h.keyed.mem_toList_iff
  order := h.keyed.map_name_toList ▸ h.order
  size := by
    have hkeys : catalog.services.keys.toFinset = (history.map Prod.fst).toFinset := by
      ext name
      rw [List.mem_toFinset, List.mem_toFinset, h.mem_keys_iff]
    rw [← hkeys, List.toFinset_card_of_nodup catalog.services.nodup_keys, size, Dict.size,
      Dict.keys, List.length_map]

end Catalog

end ResourceStubs
